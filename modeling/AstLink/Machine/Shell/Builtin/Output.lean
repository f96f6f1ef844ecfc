import AstLink.Machine.Condition
import AstLink.Machine.Format
import AstLink.Machine.Shell.Session

namespace AstLink
namespace Machine
namespace Shell
namespace Builtin

/-!
Builtins that write and compare: `echo`, `printf` and `test`.
-/

/-- Writes words, with escapes resolved, up to one that ends all output. -/
def echoWords (ending : Chars) : List Chars -> Action Unit
  | [] => Action.say ending
  | [word] => do
      let (text, ended) := Format.expand word
      Action.say (if ended then text else text ++ ending)
  | word :: words => do
      let (text, ended) := Format.expand word
      if ended then Action.say text
      else
        Action.say (text ++ [' '])
        echoWords ending words

def echo (words : List Chars) : Action Nat := do
  match words with
  | ['-', 'n'] :: words => echoWords [] words
  | words => echoWords ['\n'] words
  return 0

/-! ## Formatted output -/

/-- Writing by a format: the arguments to come, whether one was used, and the status. -/
structure Printing where
  arguments : List Chars
  used : Bool := false
  status : Nat := 0

/-- Writing by a format. -/
abbrev Print := StateT Printing Action

def nextArgument? : Print (Option Chars) :=
  modifyGet (fun printing =>
    (printing.arguments.head?,
      { printing with
        arguments := printing.arguments.drop 1
        used := printing.used || !printing.arguments.isEmpty }))

/-- Says what is wrong with an argument that should be a number. -/
def check (argument rest : Chars) (outOfRange : Bool) : Print Unit := do
  let complain (text : String) : Print Unit := do
    Action.warn (argument ++ ": ".toList ++ text.toList)
    modify (fun printing => { printing with status := 1 })
  if !rest.isEmpty then
    complain (if rest.length = argument.length then "expected numeric value"
      else "not completely converted")
  else if outOfRange then complain "Numerical result out of range"

def quotedCode? (argument : Chars) : Option Nat :=
  match argument with
  | mark :: rest => if mark = '"' || mark = '\x27' then some (rest.headD '\x00').toNat else none
  | [] => none

/-- The next argument as a whole number. -/
def nextInteger (signed : Bool) : Print Int := do
  match ← nextArgument? with
  | none => return 0
  | some argument =>
      match quotedCode? argument with
      | some code => return code
      | none =>
          let scanned :=
            if signed then Arithmetic.scanNumber false argument else Arithmetic.scanUnsigned argument
          check argument (if scanned.found then scanned.rest else argument) (!scanned.inRange)
          return scanned.value

def nextReal : Print Real := do
  match ← nextArgument? with
  | none => return Real.zero
  | some argument =>
      match quotedCode? argument with
      | some code => return Real.ofNat code
      | none =>
          let scanned := Real.scan Real.double argument
          check argument (if scanned.found then scanned.rest else argument) scanned.outOfRange
          return scanned.value

/-- The width at the beginning of a text, or one that an argument gives, and what follows it. -/
def widthOf (text : Chars) : Print (Int × Chars) := do
  match text with
  | '*' :: rest => return (← nextInteger true, rest)
  | text =>
      let digits := text.takeWhile Char.isDigit
      return (Chars.digitsValue digits, text.drop digits.length)

/-- Writes what a conversion makes of the next argument.  The result says whether output is over. -/
def convert (written : Chars) (conversion : Format.Conversion) : Print Bool := do
  match conversion.kind with
  | 's' =>
      let argument ← nextArgument?
      Action.say (conversion.text (argument.getD []))
      return false
  | 'c' =>
      let argument ← nextArgument?
      Action.say ({ conversion with precision := none }.text [(argument.getD []).headD '\x00'])
      return false
  | 'b' =>
      let argument ← nextArgument?
      let (text, ended) := Format.expand (argument.getD [])
      Action.say (conversion.text text)
      return ended
  | kind =>
      if ['d', 'i', 'u', 'o', 'x', 'X'].contains kind then
        let value ← nextInteger (kind = 'd' || kind = 'i')
        Action.say (conversion.integer value)
        return false
      else if "eEfFgGaA".toList.contains kind then
        let value ← nextReal
        Action.say (conversion.real value)
        return false
      else Action.fail (written ++ ": invalid directive".toList)

/-- Goes through a format.  The result says whether output is over.  `bound` is at least the length
of the format. -/
def printOnce : Nat -> Chars -> Print Bool
  | _, [] => return false
  | 0, _ => return false
  | bound + 1, '\\' :: rest => do
      let (char, count) := Format.escape rest
      Action.say [char]
      printOnce bound (rest.drop count)
  | bound + 1, '%' :: '%' :: rest => do
      Action.say ['%']
      printOnce bound rest
  | bound + 1, '%' :: body => do
      let flags := body.takeWhile (fun char => "#-+ 0".toList.contains char)
      let (width, rest) ← widthOf (body.drop flags.length)
      let (precision, rest) ←
        match rest with
        | '.' :: rest => do
            let (precision, rest) ← widthOf rest
            pure (if precision < 0 then none else some precision.toNat, rest)
        | rest => pure (none, rest)
      match rest with
      | [] => Action.fail "missing format character".toList
      | kind :: rest =>
          let written := '%' :: body.take (body.length - rest.length)
          let flags := if width < 0 then '-' :: flags else flags
          let conversion : Format.Conversion := { flags, width := width.natAbs, precision, kind }
          if ← convert written conversion then return true else printOnce bound rest
  | bound + 1, char :: rest => do
      let text := (char :: rest).takeWhile (fun char => char != '%' && char != '\\')
      Action.say text
      printOnce bound ((char :: rest).drop text.length)

/-- Goes through a format until the arguments are used up. -/
def printAll (format : Chars) : Nat -> Print Unit
  | 0 => return
  | bound + 1 => do
      modify (fun printing => { printing with used := false })
      let ended ← printOnce (format.length + 1) format
      let printing ← get
      if ended || !printing.used || printing.arguments.isEmpty then return
      else printAll format bound

/-- Writes arguments by a format. -/
def printf (_words : List Chars) : Action Nat := do
  Action.noOptions
  match (← get).operands with
  | [] => Action.fail "usage: printf format [arg ...]".toList
  | format :: arguments =>
      let (_, printing) ← (printAll format (arguments.length + 1)).run { arguments }
      return printing.status

/-! ## Conditions -/

/-- Judges a condition. -/
def test (name : Chars) (words : List Chars) : Action Nat := do
  let words ←
    if name = ['['] then
      if words.getLast? = some [']'] then pure words.dropLast
      else Action.fail "missing ]".toList
    else pure words
  match ← Condition.holds words with
  | .ok true => return 0
  | .ok false => return 1
  | .error failure => Action.fail failure.message

end Builtin
end Shell
end Machine
end AstLink
