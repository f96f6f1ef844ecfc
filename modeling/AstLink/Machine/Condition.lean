import AstLink.Machine.Shell.Arithmetic
import AstLink.Machine.Work

namespace AstLink
namespace Machine
namespace Condition

/-!
The conditions of `test`: comparisons of texts and numbers, questions about files, and their
combinations.

What a word means depends on how many words follow it: an operator that could not have what it
operates on is taken for a text.
-/

/-- Why a condition is neither true nor false. -/
inductive Failure where
  | notNumber (text : Chars)
  | noArgument (operator : Chars)
  | unexpected (text : Chars)
  | unclosed

def Failure.message : Failure -> Chars
  | .notNumber text => "Illegal number: ".toList ++ text
  | .noArgument operator => operator ++ ": argument expected".toList
  | .unexpected [] => "unexpected operator".toList
  | .unexpected text => text ++ ": unexpected operator".toList
  | .unclosed => "closing paren expected".toList

/-- What a word is. -/
inductive Role where
  | ending
  | operand
  | unary (letter : Char)
  | binary (operator : Chars)
  | not
  | and
  | or
  | left
  | right
  deriving DecidableEq

/-- The operators with one operand. -/
def unaryLetters : Chars := "rwxefdcbpugkstznhOGLS".toList

def binaryOperators : List String :=
  ["=", "!=", "<", ">", "-eq", "-ne", "-ge", "-gt", "-le", "-lt", "-nt", "-ot", "-ef"]

def operator? (word : Chars) : Option Role :=
  match word with
  | ['!'] => some .not
  | ['('] => some .left
  | [')'] => some .right
  | ['-', 'a'] => some .and
  | ['-', 'o'] => some .or
  | ['-', letter] => if unaryLetters.contains letter then some (.unary letter) else none
  | word => if binaryOperators.contains (String.ofList word) then some (.binary word) else none

/-- Whether a word is an operator with two operands. -/
def isBinary (word : Chars) : Bool :=
  match operator? word with
  | some (.binary _) => true
  | _ => false

/-- What the first of some words is. -/
def role : List Chars -> Role
  | [] => .ending
  | word :: rest =>
      match operator? word with
      | none => .operand
      | some (.unary letter) =>
          match rest with
          | [] => .operand
          | [_] => .unary letter
          | next :: _ => if isBinary next then .operand else .unary letter
      | some .left => if rest.isEmpty then .operand else .left
      | some role => role

variable {σ ε : Type}

/-- The evaluation of a condition.  Its state are the words from the last one taken on. -/
abbrev Test (σ ε : Type) := StateT (List Chars) (ExceptT Failure (Work σ ε))

/-- Takes the word that is at hand, and says what the next one is. -/
def advance (count : Nat) : Test σ ε Role :=
  modifyGet (fun words => (role (words.drop count), words.drop count))

def integer (text : Chars) : Test σ ε Int :=
  match Shell.Arithmetic.integer? text with
  | some value => return value
  | none => throw (.notNumber text)

/-- What can be found out about a file. -/
def info? (path : Chars) (follow : Bool) : Test σ ε (Option Info) := do
  return ((← (Work.inspect path follow : Work σ ε _)).toOption : Option Info)

/-- The answer to a question about a file or a text. -/
def ask (letter : Char) (word : Chars) : Test σ ε Bool := do
  let holds (question : Info -> Bool) (follow : Bool) : Test σ ε Bool := do
    return ((← info? word follow).map question).getD false
  match letter with
  | 'z' => return word.isEmpty
  | 'n' => return !word.isEmpty
  | 't' => do
      let _ ← integer word
      return false
  | 'r' | 'w' | 'e' | 'O' | 'G' | 'N' => holds (fun _ => true) true
  | 'x' => holds (fun info => info.sort = .directory || info.mode &&& 0o111 != 0) true
  | 'f' => holds (fun info => info.sort = .file) true
  | 'd' => holds (fun info => info.sort = .directory) true
  | 'c' => holds (fun info => info.sort = .device) true
  | 'p' => holds (fun info => info.sort = .pipe) true
  | 's' => holds (fun info => info.size != 0) true
  | 'h' | 'L' => holds (fun info => info.sort = .link) false
  | 'u' => holds (fun info => info.mode &&& 0o4000 != 0) true
  | 'g' => holds (fun info => info.mode &&& 0o2000 != 0) true
  | 'k' => holds (fun info => info.mode &&& 0o1000 != 0) true
  | _ => return false

/-- The result of a comparison. -/
def compare (a operator b : Chars) : Test σ ε Bool := do
  let files (relation : Info -> Info -> Bool) : Test σ ε Bool := do
    match ← info? a true, ← info? b true with
    | some a, some b => return relation a b
    | _, _ => return false
  let numbers (relation : Int -> Int -> Bool) : Test σ ε Bool := do
    let first ← integer a
    let second ← integer b
    return relation first second
  match String.ofList operator with
  | "=" => return a == b
  | "!=" => return a != b
  | "<" => return decide (a < b)
  | ">" => return decide (b < a)
  | "-eq" => numbers (fun a b => a = b)
  | "-ne" => numbers (fun a b => a != b)
  | "-ge" => numbers (fun a b => b ≤ a)
  | "-gt" => numbers (fun a b => b < a)
  | "-le" => numbers (fun a b => a ≤ b)
  | "-lt" => numbers (fun a b => a < b)
  | "-nt" => files (fun a b => b.changed < a.changed)
  | "-ot" => files (fun a b => a.changed < b.changed)
  | _ => files (fun a b => a.identity = b.identity)

mutual

/-- Alternatives. -/
def disjunction : Nat -> Role -> Test σ ε Bool
  | 0, _ => return false
  | bound + 1, first => do
      let result ← conjunction bound first
      if role ((← get).drop 1) = .or then
        let next ← advance 2
        let other ← disjunction bound next
        return result || other
      else return result

/-- Conditions that must hold together. -/
def conjunction : Nat -> Role -> Test σ ε Bool
  | 0, _ => return false
  | bound + 1, first => do
      let result ← negation bound first
      if role ((← get).drop 1) = .and then
        let next ← advance 2
        let other ← conjunction bound next
        return result && other
      else return result

/-- A condition that may be turned into its opposite. -/
def negation : Nat -> Role -> Test σ ε Bool
  | 0, _ => return false
  | bound + 1, first => do
      if first = .not then
        let next := role ((← get).drop 1)
        if next != .ending then modify (fun words => words.drop 1)
        return !(← negation bound next)
      else single bound first

def single : Nat -> Role -> Test σ ε Bool
  | 0, _ => return false
  | bound + 1, first => do
      let words ← get
      match first, words with
      | .ending, _ | _, [] => return false
      | .left, _ =>
          let next ← advance 1
          if next = .right then return false
          let result ← disjunction bound next
          if (← advance 1) = .right then return result else throw .unclosed
      | .unary letter, word :: _ =>
          let _ ← advance 1
          match ← get with
          | [] => throw (.noArgument word)
          | operand :: _ => ask letter operand
      | _, word :: rest =>
          match role rest, rest with
          | .binary operator, _ :: after =>
              set after
              match after with
              | [] => throw (.noArgument operator)
              | second :: _ => compare word operator second
          | _, _ => return !word.isEmpty

end

/-- Whether the words of a condition hold.  Of three or four words the first may turn the condition
into its opposite, as `turned` says; once is as good as twice. -/
def judge (turned : Bool) : Nat -> List Chars -> Test σ ε Bool
  | _, [] => return false
  | 0, _ => return false
  | bound + 1, words => do
      let evaluate (first : Role) (words : List Chars) : Test σ ε Bool := do
        set words
        let result ← disjunction (4 * words.length + 4) first
        match ← get with
        | word :: _ :: _ => throw (.unexpected word)
        | _ => return result != turned
      let inside := (words.drop 1).dropLast
      let few := words.length = 3 || words.length = 4
      if words.length = 3 && isBinary (words.getD 1 []) then evaluate .operand words
      else if few && words.head? = some ['('] && words.getLast? = some [')'] then
        evaluate (role inside) inside
      else if few && words.head? = some ['!'] then judge true bound (words.drop 1)
      else evaluate (role words) words

def holds (words : List Chars) : Work σ ε (Except Failure Bool) :=
  ((judge false (words.length + 1) words).run' words).run

end Condition
end Machine
end AstLink
