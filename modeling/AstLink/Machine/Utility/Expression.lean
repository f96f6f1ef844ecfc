import AstLink.Machine.Regex.Match
import AstLink.Machine.Regex.Reader
import AstLink.Machine.Utility.Console

namespace AstLink
namespace Machine
namespace Utility
namespace Expression

/-!
`expr`, which evaluates an expression whose operands and operators are words.
-/

/-- What an expression may come to. -/
inductive Value where
  | text (text : Chars)
  | number (number : Int)
  deriving DecidableEq, Repr

/-- Why there is no value. -/
inductive Failure where
  | missingAfter (word : Chars)
  | unexpected (word : Chars)
  | unexpectedParen
  | parenAfter (word : Chars)
  | parenInstead (word : Chars)
  | notInteger
  | zeroDivisor
  | pattern (failure : Regex.Failure)

def Failure.message : Failure -> Chars
  | .missingAfter word => "syntax error: missing argument after ".toList ++ marked word
  | .unexpected word => "syntax error: unexpected argument ".toList ++ marked word
  | .unexpectedParen => "syntax error: unexpected \x27)\x27".toList
  | .parenAfter word => "syntax error: expecting \x27)\x27 after ".toList ++ marked word
  | .parenInstead word => "syntax error: expecting \x27)\x27 instead of ".toList ++ marked word
  | .notInteger => "non-integer argument".toList
  | .zeroDivisor => "division by zero".toList
  | .pattern failure => failure.message.toList

namespace Value

def shown : Value -> Chars
  | .text chars => chars
  | .number value => Chars.ofInt value

def integer? (text : Chars) : Option Int :=
  match text with
  | '-' :: digits =>
      if Chars.isNumber digits then some (-(Int.ofNat (Chars.digitsValue digits))) else none
  | digits => if Chars.isNumber digits then some (Int.ofNat (Chars.digitsValue digits)) else none

def toInt? : Value -> Option Int
  | .number value => some value
  | .text chars => integer? chars

def isNull : Value -> Bool
  | .number value => value = 0
  | .text chars => chars.isEmpty || integer? chars = some 0

end Value

/-- The words to come, and the last one that was taken. -/
structure Words where
  rest : List Chars
  last : Chars := []

abbrev Evaluation := StateT Words (Except Failure)

def takes (word : String) : Evaluation Bool := do
  match (← get).rest with
  | next :: rest =>
      if next = word.toList then
        set ({ rest, last := next } : Words)
        return true
      else return false
  | [] => return false

/-- Takes the next word, whatever it is. -/
def next : Evaluation Chars := do
  let words ← get
  match words.rest with
  | next :: rest =>
      set ({ rest, last := next } : Words)
      return next
  | [] => throw (.missingAfter words.last)

def operator? (operators : List String) : Evaluation (Option String) := do
  match (← get).rest with
  | next :: rest =>
      match operators.find? (fun operator => operator.toList == next) with
      | some operator =>
          set ({ rest, last := next } : Words)
          return some operator
      | none => return none
  | [] => return none

/-- Compares a text with a pattern from its beginning on.  The value is what the first group
matched, or how long the match is. -/
def compare (text pattern : Chars) : Evaluation Value := do
  match Regex.read .plain pattern with
  | .error failure => throw (.pattern failure)
  | .ok compiled =>
      let found := Regex.matchAt? {} compiled.pattern text (Regex.Spot.start text)
      if compiled.groups = 0 then
        return .number (Int.ofNat ((found.map Regex.Found.last).getD 0))
      else return .text ((found.map (fun found => found.group text 1)).getD [])

def needInt (value : Value) : Evaluation Int := do
  match value.toInt? with
  | some number => return number
  | none => throw .notInteger

/-- Whether two values are related as an operator says: as numbers if both are. -/
def related (operator : String) (a b : Value) : Bool :=
  let order : Ordering :=
    match Value.integer? a.shown, Value.integer? b.shown with
    | some a, some b => compareOfLessAndEq a b
    | _, _ => compareOfLessAndEq a.shown b.shown
  match operator with
  | "<" => order = .lt
  | "<=" => order != .gt
  | "=" | "==" => order = .eq
  | "!=" => order != .eq
  | ">=" => order != .lt
  | _ => order = .gt

def ofBool (truth : Bool) : Value := .number (if truth then 1 else 0)

/-- What an operation of arithmetic gives. -/
def calculate (operator : String) (a b : Value) : Evaluation Value := do
  let a ← needInt a
  let b ← needInt b
  match operator with
  | "+" => return .number (a + b)
  | "-" => return .number (a - b)
  | "*" => return .number (a * b)
  | operator =>
      if b = 0 then throw .zeroDivisor
      else return .number (if operator = "/" then Int.tdiv a b else Int.tmod a b)

def part (text : Chars) (place count : Value) : Value :=
  match place.toInt?, count.toInt? with
  | some place, some count =>
      if place ≤ 0 || count ≤ 0 then .text []
      else .text ((text.drop (place.toNat - 1)).take count.toNat)
  | _, _ => .text []

def placeOf (text characters : Chars) : Nat :=
  let before := text.takeWhile (fun char => !characters.contains char)
  if before.length < text.length then before.length + 1 else 0

/-- A way to combine operands: its operators, whether the operand behind one matters, and what comes
of two. -/
structure Level where
  operators : List String
  matters : Value -> Bool := fun _ => true
  combine : String -> Value -> Value -> Evaluation Value
  /-- Whether operands that do not matter are combined all the same. -/
  always : Bool := false

/-- Operands and what comes of them, from left to right. -/
def Level.rest (level : Level) (operand : Bool -> Evaluation Value) (live : Bool) :
    Nat -> Value -> Evaluation Value
  | 0, value => return value
  | bound + 1, value => do
      match ← operator? level.operators with
      | none => return value
      | some operator =>
          let other ← operand (live && level.matters value)
          let value ←
            if live || level.always then level.combine operator value other else pure value
          level.rest operand live bound value

def Level.evaluate (level : Level) (operand : Bool -> Evaluation Value) (live : Bool) :
    Evaluation Value := do
  let count := (← get).rest.length
  level.rest operand live count (← operand live)

/-- The first value that counts, of some. -/
def disjunction : Level where
  operators := ["|"]
  matters := Value.isNull
  combine := fun _ value other =>
    return if !value.isNull then value else if other.isNull then .number 0 else other
  always := true

/-- The first value, if all count. -/
def conjunction : Level where
  operators := ["&"]
  matters := fun value => !value.isNull
  combine := fun _ value other =>
    return if value.isNull || other.isNull then .number 0 else value
  always := true

/-- Values that are compared. -/
def comparison : Level where
  operators := ["<=", "<", "==", "=", "!=", ">=", ">"]
  combine := fun operator value other => return ofBool (related operator value other)

/-- Values that are added. -/
def sum : Level where
  operators := ["+", "-"]
  combine := calculate

/-- Values that are multiplied. -/
def product : Level where
  operators := ["*", "/", "%"]
  combine := calculate

/-- Texts that are compared with patterns. -/
def matching : Level where
  operators := [":"]
  combine := fun _ value other => compare value.shown other.shown

def expression (operand : Bool -> Evaluation Value) : Bool -> Evaluation Value :=
  [matching, product, sum, comparison, conjunction, disjunction].foldl
    (fun operand level => level.evaluate operand) operand

/-- An operand: a word, an expression in parentheses, or an operation that has a name. -/
def operand : Nat -> Bool -> Evaluation Value
  | 0, _ => return .text []
  | bound + 1, live => do
      if ← takes "+" then return .text (← next)
      match ← operator? ["length", "match", "index", "substr"] with
      | some "length" => return .number (Int.ofNat (← operand bound live).shown.length)
      | some "match" =>
          let text ← operand bound live
          let pattern ← operand bound live
          if live then compare text.shown pattern.shown else return text
      | some "index" =>
          let text ← operand bound live
          let characters ← operand bound live
          return .number (Int.ofNat (placeOf text.shown characters.shown))
      | some _ =>
          let text ← operand bound live
          let place ← operand bound live
          let count ← operand bound live
          return part text.shown place count
      | none =>
          let word ← next
          if word = ['('] then
            let value ← expression (operand bound) live
            match (← get).rest with
            | [] => throw (.parenAfter (← get).last)
            | [')'] :: rest =>
                set ({ rest, last := [')'] } : Words)
                return value
            | word :: _ => throw (.parenInstead word)
          else if word = [')'] then throw .unexpectedParen
          else return .text word

def evaluate (words : List Chars) : Except Failure Value := do
  let (value, words) ← (expression (operand (words.length + 1)) true).run { rest := words }
  match words.rest with
  | [] => return value
  | word :: _ => throw (.unexpected word)

/-- Evaluates an expression. -/
def run (words : List Chars) : Task Unit := do
  let words := if words.head? = some ['-', '-'] then words.drop 1 else words
  if words.isEmpty then Task.misuse 2 "missing operand".toList
  match evaluate words with
  | .error failure => Task.fail 2 failure.message
  | .ok value =>
      Task.line value.shown
      if value.isNull then Task.setStatus 1

end Expression
end Utility
end Machine
end AstLink
