import AstLink.Machine.Shell.Syntax

namespace AstLink
namespace Machine
namespace Shell
namespace Arithmetic

/-!
Arithmetic of scripts: signed words of 64 bits, the usual operators with their precedence, and
variables, which must hold numbers where they hold anything.

A part of an expression whose value is not asked for is read but not evaluated: it sets no
variables, and nothing in it can go wrong but the way in which it is written.
-/

inductive Token where
  | number (value : Int)
  | name (text : Chars)
  | sign (text : String)
  /-- A character that begins no token. -/
  | bad
  deriving DecidableEq, Repr

/-- Why an expression has no value. -/
inductive Failure where
  | expecting (what : String)
  | divisionByZero
  | notNumber (text : Chars)

def Failure.message (written : Chars) : Failure -> Chars
  | .expecting what =>
      ("arithmetic expression: expecting " ++ what ++ ": \"").toList ++ written ++ ['"']
  | .divisionByZero => "arithmetic expression: division by zero: \"".toList ++ written ++ ['"']
  | .notNumber text => "Illegal number: ".toList ++ text

/-- Keeps the low 64 bits, as a signed number. -/
def wrap (value : Int) : Int := value.bmod (Nat.pow 2 64)

def largest : Int := Nat.pow 2 63 - 1

/-- The number in range that is nearest to a number. -/
def clamp (value : Int) : Int := max (-largest - 1) (min largest value)

def digitValue? (char : Char) : Option Nat :=
  if char.isDigit then some (char.toNat - '0'.toNat)
  else if char.isLower then some (char.toNat - 'a'.toNat + 10)
  else if char.isUpper then some (char.toNat - 'A'.toNat + 10)
  else none

/-- The digits of a base at the beginning of a text: their value and how many they are. -/
def digits (base : Nat) (text : Chars) : Nat × Nat :=
  let found := text.takeWhile (fun char =>
    match digitValue? char with
    | some value => value < base
    | none => false)
  (found.foldl (fun value digit => value * base + (digitValue? digit).getD 0) 0, found.length)

/-- The number at the beginning of a text, in base sixteen after `0x`, in base eight after `0` and
else in ten, and how many characters it takes.  With `decimal` the base is always ten. -/
def numeral (decimal : Bool) (text : Chars) : Nat × Nat :=
  match text with
  | '0' :: mark :: rest =>
      if decimal then digits 10 text
      else if mark = 'x' || mark = 'X' then
        let (value, count) := digits 16 rest
        if count = 0 then (0, 1) else (value, count + 2)
      else
        let (value, count) := digits 8 (mark :: rest)
        (value, count + 1)
  | text => digits 10 text

/-- The signed number at the beginning of a text, behind blanks, what follows it, and whether there
was one and whether it was in range. -/
structure Scanned where
  value : Int
  rest : Chars
  found : Bool
  inRange : Bool

def scanNumber (decimal : Bool) (text : Chars) : Scanned :=
  let start := text.dropWhile Chars.isSpace
  let (negative, body) :=
    match start with
    | '-' :: rest => (true, rest)
    | '+' :: rest => (false, rest)
    | rest => (false, rest)
  let (value, count) := numeral decimal body
  if count = 0 then ⟨0, text, false, true⟩
  else
    let value := if negative then -(Int.ofNat value) else Int.ofNat value
    ⟨clamp value, body.drop count, true, clamp value = value⟩

/-- The largest number without a sign. -/
def largestUnsigned : Int := Nat.pow 2 64 - 1

/-- The number at the beginning of a text that is taken without its sign. -/
def scanUnsigned (text : Chars) : Scanned :=
  let scanned := scanNumber false text
  if scanned.inRange then scanned
  else
    let body := text.dropWhile Chars.isSpace
    let negative := body.head? = some '-'
    let body := if negative || body.head? = some '+' then body.drop 1 else body
    let (value, _) := numeral false body
    let value := Int.ofNat value
    if largestUnsigned < value then { scanned with value := largestUnsigned }
    else { scanned with value := if negative then -value else value, inRange := true }

def variableValue (text : Chars) : Except Failure Int :=
  let scanned := scanNumber false text
  if (scanned.rest.dropWhile Chars.isSpace).isEmpty && scanned.inRange then .ok scanned.value
  else .error (.notNumber text)

/-- The value of a text that must be a decimal number, with blanks around it. -/
def integer? (text : Chars) : Option Int :=
  let scanned := scanNumber true text
  if scanned.found && scanned.inRange && (scanned.rest.dropWhile Chars.isSpace).isEmpty then
    some scanned.value
  else none

/-- The signs of the language, longer ones before their beginnings. -/
def signs : List String :=
  ["<<=", ">>=", "&&", "||", "==", "!=", "<=", ">=", "<<", ">>", "+=", "-=", "*=", "/=", "%=",
    "&=", "|=", "^=", "+", "-", "*", "/", "%", "<", ">", "!", "~", "&", "|", "^", "(", ")", "?",
    ":", "="]

/-- The tokens of an expression.  `bound` is at least its length. -/
def tokens : Nat -> Chars -> List Token
  | _, [] => []
  | 0, _ => []
  | bound + 1, char :: rest =>
      if char = ' ' || char = '\t' || char = '\n' then tokens bound rest
      else if char.isDigit then
        let (value, count) := numeral false (char :: rest)
        .number (clamp value) :: tokens bound (rest.drop (count - 1))
      else if isNameStart char then
        let name := (char :: rest).takeWhile isNameChar
        .name name :: tokens bound (rest.drop (name.length - 1))
      else
        match signs.find? (fun sign => sign.toList.isPrefixOf (char :: rest)) with
        | some sign => .sign sign :: tokens bound (rest.drop (sign.length - 1))
        | none => [.bad]

/-- The operators with two operands, and how closely they bind. -/
def precedence? (sign : String) : Option Nat :=
  [("*", 10), ("/", 10), ("%", 10), ("+", 9), ("-", 9), ("<<", 8), (">>", 8), ("<", 7),
    ("<=", 7), (">", 7), (">=", 7), ("==", 6), ("!=", 6), ("&", 5), ("^", 4),
    ("|", 3)].lookup sign

def truth (holds : Bool) : Int := if holds then 1 else 0

/-- The value of an operator with two operands. -/
def apply (sign : String) (a b : Int) : Except Failure Int :=
  let word (value : Int) : Int64 := Int64.ofInt value
  match sign with
  | "*" => .ok (wrap (a * b))
  | "/" => if b = 0 then .error .divisionByZero else .ok (wrap (a.tdiv b))
  | "%" => if b = 0 then .error .divisionByZero else .ok (wrap (a.tmod b))
  | "+" => .ok (wrap (a + b))
  | "-" => .ok (wrap (a - b))
  | "<<" => .ok (word a <<< word b).toInt
  | ">>" => .ok (word a >>> word b).toInt
  | "<" => .ok (truth (a < b))
  | "<=" => .ok (truth (a ≤ b))
  | ">" => .ok (truth (b < a))
  | ">=" => .ok (truth (b ≤ a))
  | "==" => .ok (truth (a = b))
  | "!=" => .ok (truth (a ≠ b))
  | "&" => .ok (word a &&& word b).toInt
  | "^" => .ok (word a ^^^ word b).toInt
  | "|" => .ok (word a ||| word b).toInt
  | _ => .error (.expecting "EOF")

/-- The state of an evaluation: the tokens to come and the variables set so far, latest first. -/
structure Progress where
  tokens : List Token
  assigned : List (Chars × Int) := []

abbrev Evaluation := StateT Progress (Except Failure)

def peek : Evaluation (Option Token) := return (← get).tokens.head?

/-- Takes the next token. -/
def skip : Evaluation Unit :=
  modify (fun progress => { progress with tokens := progress.tokens.drop 1 })

/-- Takes a sign if it stands next. -/
def accept (sign : String) : Evaluation Bool := do
  if (← peek) = some (.sign sign) then
    skip
    return true
  else return false

/-- The value of a variable, given the texts that the script has set. -/
def lookUp (value : Chars -> Chars) (name : Chars) : Evaluation Int := do
  match (← get).assigned.lookup name with
  | some value => return value
  | none => variableValue (value name)

mutual

def operand (value : Chars -> Chars) (asked : Bool) : Nat -> Evaluation Int
  | 0 => throw (.expecting "primary")
  | depth + 1 => do
      match ← peek with
      | some (.number number) =>
          skip
          return number
      | some (.name name) =>
          skip
          if asked then lookUp value name else return 0
      | some (.sign "(") =>
          skip
          let inner ← expression value asked depth
          if ← accept ")" then return inner else throw (.expecting "')'")
      | some (.sign "+") =>
          skip
          operand value asked depth
      | some (.sign "-") =>
          skip
          return wrap (-(← operand value asked depth))
      | some (.sign "!") =>
          skip
          return truth ((← operand value asked depth) = 0)
      | some (.sign "~") =>
          skip
          return wrap (-(← operand value asked depth) - 1)
      | _ => throw (.expecting "primary")

/-- Evaluates what follows a left operand, as far as it binds at least so closely. -/
def climb (value : Chars -> Chars) (asked : Bool) (least : Nat) (left : Int) :
    Nat -> Evaluation Int
  | 0 => throw (.expecting "primary")
  | depth + 1 => do
      match ← peek with
      | some (.sign sign) =>
          match precedence? sign with
          | some level =>
              if level < least then return left
              else
                skip
                let first ← operand value asked depth
                let right ← climb value asked (level + 1) first depth
                let result ← if asked then (apply sign left right : Except Failure Int)
                  else pure right
                climb value asked least result depth
          | none => return left
      | _ => return left

/-- Evaluates conditions that must hold together. -/
def conjunction (value : Chars -> Chars) (asked : Bool) : Nat -> Evaluation Int
  | 0 => throw (.expecting "primary")
  | depth + 1 => do
      let first ← operand value asked depth
      let left ← climb value asked 1 first depth
      if ← accept "&&" then
        let right ← conjunction value (asked && left != 0) depth
        return truth (left != 0 && right != 0)
      else return left

/-- Evaluates alternatives. -/
def disjunction (value : Chars -> Chars) (asked : Bool) : Nat -> Evaluation Int
  | 0 => throw (.expecting "primary")
  | depth + 1 => do
      let left ← conjunction value asked depth
      if ← accept "||" then
        let right ← disjunction value (asked && left = 0) depth
        return truth (left != 0 || right != 0)
      else return left

def choice (value : Chars -> Chars) (asked : Bool) : Nat -> Evaluation Int
  | 0 => throw (.expecting "primary")
  | depth + 1 => do
      let condition ← disjunction value asked depth
      if ← accept "?" then
        let yes ← expression value (asked && condition != 0) depth
        if !(← accept ":") then throw (.expecting "':'")
        let no ← choice value (asked && condition = 0) depth
        return if condition != 0 then yes else no
      else return condition

/-- Evaluates an expression: an assignment or a choice. -/
def expression (value : Chars -> Chars) (asked : Bool) : Nat -> Evaluation Int
  | 0 => throw (.expecting "primary")
  | depth + 1 => do
      match (← get).tokens with
      | .name name :: .sign sign :: rest =>
          let compound := String.ofList sign.toList.dropLast
          if sign = "=" || (sign.endsWith "=" && (precedence? sign).isNone &&
              (precedence? compound).isSome) then
            modify (fun progress => { progress with tokens := rest })
            let right ← expression value asked depth
            if !asked then return right
            let result ←
              if sign = "=" then pure right
              else (apply compound (← lookUp value name) right : Except Failure Int)
            modify (fun progress =>
              { progress with assigned := (name, result) :: progress.assigned })
            return result
          else choice value asked depth
      | _ => choice value asked depth

end

/-- The value of an expression and the variables that it sets, the latest first.  An expression
without any token counts as zero. -/
def evaluate (value : Chars -> Chars) (text : Chars) :
    Except Failure (Int × List (Chars × Int)) :=
  match tokens (text.length + 1) text with
  | [] => .ok (0, [])
  | tokens =>
      match (expression value true (8 * tokens.length + 8)).run { tokens } with
      | .error failure => .error failure
      | .ok (result, progress) =>
          if progress.tokens.isEmpty then .ok (result, progress.assigned)
          else .error (.expecting "EOF")

end Arithmetic
end Shell
end Machine
end AstLink
