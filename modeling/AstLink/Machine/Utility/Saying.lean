import AstLink.Machine.Format
import AstLink.Machine.Shell.Arithmetic
import AstLink.Machine.Utility.Console

namespace AstLink
namespace Machine
namespace Utility

/-!
Programs that write their words: `echo` and `printf`.
-/

/-! ## Words -/

/-- The number that digits are in a base, at most so many of them, and how many there are. -/
def digitsOf (isDigit : Char -> Bool) (base most : Nat) (text : Chars) : Nat × Nat :=
  let digits := (text.takeWhile isDigit).take most
  (digits.foldl (fun value digit => value * base + Real.hexValue digit) 0, digits.length)

/-- A text with its escapes resolved, up to `\c`, which ends all output.  The result says whether it
was met.  `skipped` characters belong to the escape before. -/
def resolve (done : Chars) : Nat -> Chars -> Chars × Bool
  | _, [] => (done.reverse, false)
  | skipped + 1, _ :: rest => resolve done skipped rest
  | 0, char :: rest =>
      if char != '\\' then resolve (char :: done) 0 rest
      else
        let give (code count : Nat) : Chars × Bool :=
          resolve (Char.ofNat (code % 256) :: done) count rest
        match rest with
        | 'c' :: _ => (done.reverse, true)
        | 'x' :: after =>
            let (code, count) := digitsOf Real.isHex 16 2 after
            if count = 0 then resolve (char :: done) 0 rest else give code (count + 1)
        | '0' :: after =>
            let (code, count) := digitsOf Format.isOctal 8 3 after
            give code (count + 1)
        | next :: _ =>
            if Format.isOctal next then
              let (code, count) := digitsOf Format.isOctal 8 3 rest
              give code count
            else
              let (result, count) := Format.escape rest
              resolve (result :: done) count rest
        | [] => ((char :: done).reverse, false)

def isEchoOption (word : Chars) : Bool :=
  match word with
  | '-' :: letter :: letters =>
      (letter :: letters).all (fun letter => ['n', 'e', 'E'].contains letter)
  | _ => false

def echo (words : List Chars) : Task Unit := do
  let options := words.takeWhile isEchoOption
  let letters := options.flatMap (fun option => option.drop 1)
  let resolves := (letters.filter (fun letter => letter != 'n')).getLast? = some 'e'
  let text := Chars.join [' '] (words.drop options.length)
  let ending := if letters.contains 'n' then [] else ['\n']
  if resolves then
    let (text, ended) := resolve [] 0 text
    Task.say (if ended then text else text ++ ending)
  else Task.say (text ++ ending)

/-! ## Formats -/

/-- Writing by a format: the arguments to come, whether one was used, and whether one was wrong. -/
structure Printing where
  arguments : List Chars
  used : Bool := false

/-- Writing by a format. -/
abbrev Print := StateT Printing Task

def nextArgument? : Print (Option Chars) :=
  modifyGet (fun printing =>
    (printing.arguments.head?,
      { arguments := printing.arguments.drop 1
        used := printing.used || !printing.arguments.isEmpty }))

/-- Says what is wrong with an argument that should be a number. -/
def checkNumber (argument rest : Chars) (outOfRange : Bool) : Task Unit := do
  let complain (text : String) : Task Unit := do
    Task.complain (marked argument ++ ": ".toList ++ text.toList)
    Task.setStatus 1
  if outOfRange then complain "Numerical result out of range"
  else if !rest.isEmpty then
    complain
      (if rest.length = argument.length then "expected a numeric value"
        else "value not completely converted")

/-- The code of the character behind a quotation mark. -/
def quotedCode? (argument : Chars) : Task (Option Nat) := do
  match argument with
  | mark :: char :: rest =>
      if mark = '"' || mark = '\x27' then
        if !rest.isEmpty then
          Task.complain
            ("warning: ".toList ++ rest ++
              ": character(s) following character constant have been ignored".toList)
        return some char.toNat
      else return none
  | _ => return none

/-- The next argument as a whole number. -/
def nextInteger (signed : Bool) : Print Int := do
  match ← nextArgument? with
  | none => return 0
  | some argument =>
      match ← quotedCode? argument with
      | some code => return code
      | none =>
          let scanned :=
            if signed then Shell.Arithmetic.scanNumber false argument
            else Shell.Arithmetic.scanUnsigned argument
          let rest := if scanned.found then scanned.rest else argument
          checkNumber argument rest (!scanned.inRange)
          return scanned.value

def nextReal : Print Real := do
  match ← nextArgument? with
  | none => return Real.zero
  | some argument =>
      match ← quotedCode? argument with
      | some code => return Real.ofNat code
      | none =>
          let scanned := Real.scan Real.extended argument
          checkNumber argument (if scanned.found then scanned.rest else argument)
            scanned.outOfRange
          return scanned.value

def refuseConversion {α : Type} (written : Chars) : Print α :=
  (Task.fail 1 ('%' :: written ++ ": invalid conversion specification".toList) : Task α)

/-- The width at the beginning of a text, or one that an argument gives, and what follows it. -/
def widthOf (text : Chars) : Print (Int × Chars) := do
  match text with
  | '*' :: rest => return (← nextInteger true, rest)
  | text =>
      let digits := text.takeWhile Char.isDigit
      return (Chars.digitsValue digits, text.drop digits.length)

def excludedBy (flag : Char) : String :=
  match flag with
  | '#' => "diucs"
  | '0' => "cs"
  | '\x27' => "aAceEosxX"
  | _ => ""

/-- Writes what a conversion makes of the next argument. -/
def convert (written : Chars) (conversion : Format.Conversion) : Print Unit := do
  let kind := conversion.kind
  let isExcluded := conversion.flags.any (fun flag => (excludedBy flag).toList.contains kind)
  if isExcluded || (kind = 'c' && conversion.precision.isSome) then refuseConversion written
  match kind with
  | 's' =>
      let argument ← nextArgument?
      Task.say (conversion.text (argument.getD []))
  | 'c' =>
      let argument ← nextArgument?
      Task.say (conversion.text [(argument.getD []).headD '\x00'])
  | kind =>
      if ['d', 'i', 'u', 'o', 'x', 'X'].contains kind then
        let value ← nextInteger (kind = 'd' || kind = 'i')
        Task.say (conversion.integer value)
      else if "eEfFgGaA".toList.contains kind then
        let value ← nextReal
        Task.say (conversion.real value)
      else refuseConversion written

/-- Writes what a conversion behind its sign makes of the next argument, and gives what follows it.
Nothing follows an argument that ends all output. -/
def convertAt (body : Chars) : Print (Option Chars) := do
  match body with
  | '%' :: rest =>
      Task.say ['%']
      return some rest
  | 'b' :: rest =>
      let argument ← nextArgument?
      let (text, ended) := resolve [] 0 (argument.getD [])
      Task.say text
      return if ended then none else some rest
  | 'q' :: rest =>
      let argument ← nextArgument?
      Task.say (shownName (argument.getD []))
      return some rest
  | body =>
      let flags := body.takeWhile (fun char => "#-+ 0\x27I".toList.contains char)
      let (width, rest) ← widthOf (body.drop flags.length)
      let (precision, rest) ←
        match rest with
        | '.' :: rest => do
            let (precision, rest) ← widthOf rest
            pure (if precision < 0 then none else some precision.toNat, rest)
        | rest => pure (none, rest)
      let rest := rest.dropWhile (fun char => "hlLjtz".toList.contains char)
      match rest with
      | [] => refuseConversion body
      | kind :: rest =>
          let written := body.take (body.length - rest.length)
          let flags := if width < 0 then '-' :: flags else flags
          convert written { flags, width := width.natAbs, precision, kind }
          return some rest

/-- The bytes of a character that is given by its number. -/
def encoded (code : Nat) : Chars :=
  if code < 128 then [Char.ofNat code]
  else if code < 0x10000 then
    "\\u".toList ++ Chars.padLeft '0' 4 ((Nat.toDigits 16 code).map Char.toUpper)
  else "\\U".toList ++ Chars.padLeft '0' 8 ((Nat.toDigits 16 code).map Char.toUpper)

/-- What an escape in a format stands for, and how many characters it takes; `none` ends all output.
-/
def formatEscape (rest : Chars) : Task (Option (Chars × Nat)) := do
  let missing : Task (Option (Chars × Nat)) :=
    Task.fail 1 "missing hexadecimal number in escape".toList
  match rest with
  | 'c' :: _ => return none
  | '"' :: _ => return some (['"'], 1)
  | 'x' :: after =>
      let (code, count) := digitsOf Real.isHex 16 2 after
      if count = 0 then missing else return some ([Char.ofNat code], count + 1)
  | 'u' :: after =>
      let (code, count) := digitsOf Real.isHex 16 4 after
      if count < 4 then missing else return some (encoded code, 5)
  | 'U' :: after =>
      let (code, count) := digitsOf Real.isHex 16 8 after
      if count < 8 then missing else return some (encoded code, 9)
  | rest =>
      let (char, count) := Format.escape rest
      return some ([char], count)

/-- Goes through a format.  The result says whether output is over.  `bound` is at least the length
of the format. -/
def printOnce : Nat -> Chars -> Print Bool
  | _, [] => return false
  | 0, _ => return false
  | bound + 1, '\\' :: rest => do
      match ← formatEscape rest with
      | none => return true
      | some (text, count) =>
          Task.say text
          printOnce bound (rest.drop count)
  | bound + 1, '%' :: body => do
      match ← convertAt body with
      | some rest => printOnce bound rest
      | none => return true
  | bound + 1, char :: rest => do
      let text := (char :: rest).takeWhile (fun char => char != '%' && char != '\\')
      Task.say text
      printOnce bound ((char :: rest).drop text.length)

/-- Goes through a format until the arguments are used up. -/
def printAll (format : Chars) : Nat -> Print Unit
  | 0 => return
  | bound + 1 => do
      modify (fun printing => { printing with used := false })
      let ended ← printOnce (format.length + 1) format
      let printing ← get
      match printing.arguments with
      | [] => return
      | next :: _ =>
          if ended then return
          else if printing.used then printAll format bound
          else
            Task.complain
              ("warning: ignoring excess arguments, starting with ".toList ++ marked next)

/-- Writes arguments by a format. -/
def printf (words : List Chars) : Task Unit := do
  let words := if words.head? = some ['-', '-'] then words.drop 1 else words
  match words with
  | [] => Task.misuse 1 "missing operand".toList
  | format :: arguments =>
      let _ ← (printAll format (arguments.length + 1)).run { arguments }

end Utility
end Machine
end AstLink
