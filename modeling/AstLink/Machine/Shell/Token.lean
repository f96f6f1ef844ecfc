import AstLink.Machine.Shell.Syntax

namespace AstLink
namespace Machine
namespace Shell

/-!
Tokens of scripts, and the state in which a script is read.

A script is read as far as it is needed: one command line at a time.  What there is still to read
lies in layers, because the text of an alias is read in place of its name before the rest is.
-/

/-- The words with a meaning of their own. -/
inductive Keyword where
  | bang
  | caseWord
  | doWord
  | doneWord
  | elifWord
  | elseWord
  | esacWord
  | fiWord
  | forWord
  | ifWord
  | inWord
  | thenWord
  | untilWord
  | whileWord
  | openBrace
  | closeBrace
  deriving DecidableEq, Repr

namespace Keyword

/-- The words with a meaning of their own. -/
def all : List Keyword :=
  [.bang, .caseWord, .doWord, .doneWord, .elifWord, .elseWord, .esacWord, .fiWord, .forWord, .ifWord,
    .inWord, .thenWord, .untilWord, .whileWord, .openBrace, .closeBrace]

def text : Keyword -> String
  | .bang => "!"
  | .caseWord => "case"
  | .doWord => "do"
  | .doneWord => "done"
  | .elifWord => "elif"
  | .elseWord => "else"
  | .esacWord => "esac"
  | .fiWord => "fi"
  | .forWord => "for"
  | .ifWord => "if"
  | .inWord => "in"
  | .thenWord => "then"
  | .untilWord => "until"
  | .whileWord => "while"
  | .openBrace => "\x7b"
  | .closeBrace => "\x7d"

def endsList : Keyword -> Bool
  | .doWord | .doneWord | .elifWord | .elseWord | .esacWord | .fiWord | .thenWord | .closeBrace =>
      true
  | _ => false

end Keyword

inductive Token where
  | ending
  | newline
  | semicolon
  | ampersand
  | both
  | either
  | pipe
  | left
  | right
  | endOfArm
  | redirection
  | word
  | keyword (keyword : Keyword)
  deriving DecidableEq, Repr

namespace Token

/-- A text between double quotes, as messages show signs and words. -/
def inMessage (text : String) : String := "\"" ++ text ++ "\""

def name : Token -> String
  | .ending => "end of file"
  | .newline => "newline"
  | .semicolon => inMessage ";"
  | .ampersand => inMessage "&"
  | .both => inMessage "&&"
  | .either => inMessage "||"
  | .pipe => inMessage "|"
  | .left => inMessage "("
  | .right => inMessage ")"
  | .endOfArm => inMessage ";;"
  | .redirection => "redirection"
  | .word => "word"
  | .keyword found => inMessage found.text

def endsList : Token -> Bool
  | .ending | .right | .endOfArm => true
  | .keyword found => found.endsList
  | _ => false

end Token

/-- A redirection whose word has not been read. -/
inductive Opener where
  | file (descriptor : Nat) (direction : Direction)
  | duplicate (descriptor : Nat)
  /-- A document; `tabs` says whether the tabs at the beginning of its lines are left out. -/
  | document (descriptor : Nat) (tabs : Bool)

/-- A document that is still to be read. -/
structure Awaited where
  number : Nat
  ending : Chars
  tabs : Bool
  literal : Bool

/-- What is looked for in the next token. -/
structure Watch where
  aliases : Bool := false
  keywords : Bool := false
  lines : Bool := false
  /-- The token is the line with which a document ends. -/
  ending : Bool := false

/-- The state in which a script is read. -/
structure Cursor where
  rest : Chars
  line : Nat
  /-- The alias whose text is being read, and what follows it, for each layer. -/
  below : List (Chars × Chars) := []
  aliases : List (Chars × Chars) := []
  /-- Whether the last token is to be read again. -/
  again : Bool := false
  last : Token := .newline
  word : Word := []
  /-- Whether any part of the last word was quoted. -/
  quoted : Bool := false
  watch : Watch := {}
  opener : Opener := .duplicate 0
  awaited : List Awaited := []
  documents : List (Nat × Document) := []

/-- Why a script could not be read on. -/
structure SyntaxError where
  line : Nat
  text : String

abbrev Reading := StateT Cursor (Except (SyntaxError × Cursor))

namespace Reading

/-- How often reading that has no other bound is repeated at most. -/
def bound : Nat := 1000000000

def fail {α : Type} (text : String) : Reading α := do
  let cursor ← get
  throw (⟨cursor.line, text⟩, cursor)

def countLine : Reading Unit := modify (fun cursor => { cursor with line := cursor.line + 1 })

/-- Goes on below the layers that have been read to their end. -/
def settle (cursor : Cursor) : List (Chars × Chars) -> Cursor
  | [] => { cursor with below := [] }
  | (name, rest) :: below =>
      if cursor.rest.isEmpty then
        let text := (cursor.aliases.lookup name).getD []
        let spreads := text.getLast? = some ' ' || text.getLast? = some '\t'
        let watch := { cursor.watch with aliases := cursor.watch.aliases || spreads }
        settle { cursor with rest, watch } below
      else { cursor with below := (name, rest) :: below }

/-- Takes the next character; there is none at the end. -/
def next : Reading (Option Char) := do
  let cursor ← get
  let cursor := if cursor.rest.isEmpty then settle cursor cursor.below else cursor
  match cursor.rest with
  | [] =>
      set cursor
      return none
  | char :: rest =>
      set { cursor with rest }
      return some char

def putBack (char : Option Char) : Reading Unit :=
  match char with
  | some char => modify (fun cursor => { cursor with rest := char :: cursor.rest })
  | none => return

/-- A text without the joined lines at its beginning, and how many there were. -/
def withoutJoints : Chars -> Chars × Nat
  | '\\' :: '\n' :: rest =>
      let (rest, count) := withoutJoints rest
      (rest, count + 1)
  | rest => (rest, 0)

def nextJoined : Reading (Option Char) := do
  modify (fun cursor =>
    let cursor := if cursor.rest.isEmpty then settle cursor cursor.below else cursor
    let (rest, count) := withoutJoints cursor.rest
    if count = 0 then cursor else { cursor with rest, line := cursor.line + count })
  next

/-- Reads another text and then goes on where the reading stood.  `line` is the number of the other
text's first line. -/
def elsewhere {α : Type} (text : Chars) (line : Nat) (reading : Reading α) : Reading α := do
  let before ← get
  set { before with rest := text, line, below := [] }
  let result ← reading
  modify (fun cursor =>
    { cursor with rest := before.rest, line := before.line, below := before.below })
  return result

end Reading

end Shell
end Machine
end AstLink
