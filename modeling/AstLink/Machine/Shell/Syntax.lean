import AstLink.Machine.Chars

namespace AstLink
namespace Machine
namespace Shell

/-!
The language of shell scripts, after reading.
-/

/-- What is done with a parameter's value. -/
inductive Use where
  /-- It is put in as it is. -/
  | value
  /-- It is counted. -/
  | length
  /-- A word stands in for a missing value. -/
  | orElse
  /-- A word stands in for a value that is not missing. -/
  | instead
  /-- A missing value ends the script, with a word for its message. -/
  | demand
  /-- A word stands in for a missing value and becomes the value. -/
  | assign
  /-- What a pattern stands for is cut off, at the front or at the end, as much or as little of it
  as possible. -/
  | cut (front longest : Bool)
  /-- Something that is not known. -/
  | unknown
  deriving DecidableEq, Repr

/-- How a redirection opens its file. -/
inductive Direction where
  | input
  | output
  /-- Like `output`, whatever the script has set about files that are there already. -/
  | overwrite
  | append
  | both
  deriving DecidableEq, Repr

mutual

inductive Part where
  /-- Characters as they stand. -/
  | text (chars : Chars)
  /-- A character without any meaning beyond itself. -/
  | escaped (char : Char)
  /-- A quotation mark, where a quotation begins or ends. -/
  | mark
  /-- A parameter.  `orEmpty` says that an empty value counts as missing. -/
  | parameter (name : Chars) (use : Use) (orEmpty : Bool) (word : List Part)
  /-- What commands write. -/
  | output (body : Option Statement)
  | arithmetic (expression : List Part)

/-- What a descriptor is to stand for. -/
inductive Source where
  | descriptor (number : Nat)
  | closed
  | word (word : List Part)

inductive Redirection where
  | file (descriptor : Nat) (direction : Direction) (name : List Part)
  | duplicate (descriptor : Nat) (source : Source)
  | document (descriptor number : Nat)

/-- A command. -/
inductive Statement where
  | simple (line : Nat) (assignments words : List (List Part)) (redirections : List Redirection)
  | redirected (line : Nat) (body : Statement) (redirections : List Redirection)
  | background (line : Nat) (body : Statement) (redirections : List Redirection)
  | subshell (line : Nat) (body : Statement) (redirections : List Redirection)
  | pipeline (stages : List Statement) (background : Bool)
  | both (first second : Statement)
  | either (first second : Statement)
  | sequence (first second : Statement)
  | negated (body : Statement)
  | branch (condition yes : Statement) (no : Option Statement)
  | loop (untilTrue : Bool) (condition body : Statement)
  | each (line : Nat) (name : Chars) (words : List (List Part)) (body : Statement)
  | choice (line : Nat) (word : List Part) (arms : List (List (List Part) × Option Statement))
  | define (name : Chars) (body : Statement)

end

abbrev Word := List Part

instance : Inhabited Statement := ⟨.simple 0 [] [] []⟩

instance : Inhabited Part := ⟨.mark⟩

/-- A document that stands in a script.  In one that is `literal` nothing is put in for anything. -/
structure Document where
  literal : Bool
  text : Word

def isNameStart (char : Char) : Bool := char.isAlpha || char = '_'

def isNameChar (char : Char) : Bool := char.isAlphanum || char = '_'

def isName (text : Chars) : Bool :=
  match text with
  | [] => false
  | first :: rest => isNameStart first && rest.all isNameChar

def nameOf (text : Chars) : Chars :=
  match text with
  | [] => []
  | first :: _ => if isNameStart first then text.takeWhile isNameChar else []

namespace Word

/-- The text of a word that is made of characters as they stand. -/
def plain? : Word -> Option Chars
  | [] => some []
  | [.text chars] => some chars
  | _ => none

def isAssignment : Word -> Bool
  | .text chars :: _ =>
      let name := nameOf chars
      !name.isEmpty && (chars.drop name.length).head? = some '='
  | _ => false

/-- The text of a word whose quotations are taken away, for words that are not expanded. -/
def bare (word : Word) : Chars :=
  word.flatMap (fun part =>
    match part with
    | .text chars => chars
    | .escaped char => [char]
    | _ => [])

end Word

end Shell
end Machine
end AstLink
