import AstLink.Machine.Condition
import AstLink.Machine.Utility.Console

namespace AstLink
namespace Machine
namespace Utility
namespace Judging

/-!
`test`, which says by its status whether a condition holds.  What the words of a short condition mean
depends on how many there are.
-/

/-- Why a condition is neither true nor false. -/
inductive Failure where
  | missingAfter (word : Chars)
  | extra (word : Chars)
  | notBinary (word : Chars)
  | notUnary (word : Chars)
  | expected
  | expectedNot (word : Chars)
  | notInteger (word : Chars)

def Failure.message : Failure -> Chars
  | .missingAfter word => "missing argument after ".toList ++ marked word
  | .extra word => "extra argument ".toList ++ marked word
  | .notBinary word => marked word ++ ": binary operator expected".toList
  | .notUnary word => marked word ++ ": unary operator expected".toList
  | .expected => "\x27)\x27 expected".toList
  | .expectedNot word => "\x27)\x27 expected, found ".toList ++ marked word
  | .notInteger word => "invalid integer ".toList ++ marked word

/-- The judgement of a condition: its state are the words to come. -/
abbrev Judgement := StateT (List Chars) (ExceptT Failure Task)

def binaryOperators : List String :=
  ["=", "==", "!=", "-nt", "-ot", "-ef", "-eq", "-ne", "-lt", "-le", "-gt", "-ge"]

def isBinary (word : Chars) : Bool := binaryOperators.contains (String.ofList word)

/-- Whether a word looks like an operator with one operand. -/
def isUnary (word : Chars) : Bool :=
  match word with
  | ['-', _] => true
  | _ => false

/-- The operators with one operand. -/
def unaryLetters : Chars := "erwxNOGfdsScbpLhugktnz".toList

def ofCondition (condition : Condition.Test Console Nat Bool) : Judgement Bool := do
  let result ← ((condition.run' []).run : Task (Except Condition.Failure Bool))
  match result with
  | .ok truth => return truth
  | .error (.notNumber word) => throw (.notInteger word)
  | .error _ => throw .expected

/-- Goes on to the next word.  With `needed` there must be one. -/
def step (last : Chars) (needed : Bool) : Judgement Unit := do
  modify (fun words => words.drop 1)
  if needed && (← get).isEmpty then throw (.missingAfter last)

/-- An operator and its operand. -/
def unary (last : Chars) : Judgement Bool := do
  let operator := (← get).headD []
  let letter := operator.getD 1 ' '
  if !unaryLetters.contains letter then throw (.notUnary operator)
  step last true
  let operand := (← get).headD []
  step last false
  ofCondition (Condition.ask letter operand)

/-- The whole number, however large, that a word stands for. -/
def number (word : Chars) : Judgement Int := do
  let text := Chars.trimEnd Chars.isSpace (word.dropWhile Chars.isSpace)
  let (sign, digits) : Int × Chars :=
    match text with
    | '-' :: digits => (-1, digits)
    | '+' :: digits => (1, digits)
    | digits => (1, digits)
  if Chars.isNumber digits then return sign * Chars.digitsValue digits
  else throw (.notInteger word)

/-- The result of a comparison of numbers, if an operator stands for one. -/
def relation? (operator : Chars) : Option (Int -> Int -> Bool) :=
  match String.ofList operator with
  | "-eq" => some (fun a b => a = b)
  | "-ne" => some (fun a b => a != b)
  | "-ge" => some (fun a b => b ≤ a)
  | "-gt" => some (fun a b => b < a)
  | "-le" => some (fun a b => a ≤ b)
  | "-lt" => some (fun a b => a < b)
  | _ => none

def isThere (path : Chars) : Judgement Bool := ofCondition (Condition.ask 'e' path)

/-- Two operands and an operator between them.  A file that is not there is older than any other. -/
def binary : Judgement Bool := do
  match ← get with
  | first :: operator :: second :: rest =>
      set rest
      match relation? operator, String.ofList operator with
      | some relation, _ => return relation (← number first) (← number second)
      | none, "==" => return first == second
      | none, text => do
          if text = "-nt" && !(← isThere second) then isThere first
          else if text = "-ot" && !(← isThere first) then isThere second
          else ofCondition (Condition.compare first operator second)
  | _ => return false

/-- A word, which holds unless it is empty. -/
def single : Judgement Bool := do
  let word := (← get).headD []
  modify (fun words => words.drop 1)
  return !word.isEmpty

def judgeTwo (last : Chars) : Judgement Bool := do
  let first := (← get).headD []
  if first = ['!'] then
    step last false
    return !(← single)
  else if isUnary first then unary last
  else throw (.missingAfter last)

mutual

/-- Alternatives. -/
def disjunction (last : Chars) : Nat -> Judgement Bool
  | 0 => return false
  | bound + 1 => do
      let value ← conjunction last bound
      if (← get).head? = some ['-', 'o'] then
        step last false
        let other ← disjunction last bound
        return value || other
      else return value

/-- Conditions that must hold together. -/
def conjunction (last : Chars) : Nat -> Judgement Bool
  | 0 => return false
  | bound + 1 => do
      let value ← term last bound
      if (← get).head? = some ['-', 'a'] then
        step last false
        let other ← conjunction last bound
        return value && other
      else return value

/-- A condition that stands by itself. -/
def term (last : Chars) : Nat -> Judgement Bool
  | 0 => return false
  | bound + 1 => do
      let words ← get
      match words with
      | [] => throw (.missingAfter last)
      | ['!'] :: _ =>
          step last true
          return !(← term last bound)
      | ['('] :: _ =>
          step last true
          let inside := (← get).takeWhile (fun word => word != [')'])
          let rest := (← get).length
          let count := if inside.length < 4 then inside.length else rest
          let value ← judge last bound (max count 1)
          match ← get with
          | [] => throw .expected
          | [')'] :: rest =>
              set rest
              return value
          | word :: _ => throw (.expectedNot word)
      | first :: rest =>
          if 3 ≤ words.length && isBinary (rest.headD []) then binary
          else if isUnary first then unary last
          else single

def judge (last : Chars) : Nat -> Nat -> Judgement Bool
  | 0, _ => return false
  | bound + 1, count => do
      let words ← get
      let first := words.headD []
      let second := words.getD 1 []
      match count with
      | 1 => single
      | 2 => judgeTwo last
      | 3 =>
          if isBinary second then binary
          else if first = ['!'] then
            step last true
            return !(← judgeTwo last)
          else if first = ['('] && words.getD 2 [] = [')'] then
            step last false
            let value ← single
            step last false
            return value
          else if second = ['-', 'a'] || second = ['-', 'o'] then disjunction last bound
          else throw (.notBinary second)
      | 4 =>
          if first = ['!'] then
            step last true
            return !(← judge last bound 3)
          else if first = ['('] && words.getD 3 [] = [')'] then
            step last false
            let value ← judgeTwo last
            step last false
            return value
          else disjunction last bound
      | _ => disjunction last bound

end

/-- Judges a condition.  With `closed` its last word must be a bracket. -/
def run (closed : Bool) (words : List Chars) : Task Unit := do
  let words ←
    if !closed then pure words
    else if words.getLast? = some [']'] then pure words.dropLast
    else Task.fail 2 "missing \x27]\x27".toList
  if words.isEmpty then Task.stop 1
  let last := (words.getLast?).getD []
  let bound := 8 * words.length + 8
  let judgement : Judgement Bool := do
    let value ← judge last bound words.length
    match ← get with
    | [] => return value
    | word :: _ => throw (.extra word)
  match ← (judgement.run' words).run with
  | .ok true => return
  | .ok false => Task.stop 1
  | .error failure => Task.fail 2 failure.message

end Judging
end Utility
end Machine
end AstLink
