import AstLink.Machine.Format
import AstLink.Machine.Utility.Source

namespace AstLink
namespace Machine
namespace Utility
namespace Sequence

/-!
Programs that write the same or nearly the same thing many times: `seq`, which counts, `yes`, which
repeats a line, and `tee`, which writes what it reads to many places.
-/

/-! ## Numbers -/

/-- A decimal number: so many units of a power of ten below one, and how it was written. -/
structure Decimal where
  units : Int
  places : Nat
  /-- How wide it was written, with a digit before the point. -/
  width : Nat

/-- Reads a decimal number, or a whole number in base sixteen. -/
def decimal? (text : Chars) : Option Decimal :=
  let text := text.dropWhile Chars.isSpace
  let (negative, body) :=
    match text with
    | '-' :: rest => (true, rest)
    | '+' :: rest => (false, rest)
    | rest => (false, rest)
  match body with
  | '0' :: 'x' :: digits =>
      if digits.isEmpty || !digits.all Real.isHex then none
      else
        let value := digits.foldl (fun value digit => value * 16 + Int.ofNat (Real.hexValue digit)) 0
        let units := if negative then -value else value
        some { units, places := 0, width := (toString units).length }
  | body =>
      let (whole, part, rest) := Real.scanDigits Char.isDigit body
      let (exponent, rest) := Real.scanExponent 'e' rest
      if !rest.isEmpty || (whole.isEmpty && part.isEmpty) then none
      else
        let places := Int.ofNat part.length - exponent
        let value := Int.ofNat (Chars.digitsValue (whole ++ part))
        let value := if places < 0 then value * Nat.pow 10 places.natAbs else value
        let places := places.toNat
        let sign := if negative then 1 else 0
        let point := if body.contains '.' && part.isEmpty then 1 else 0
        let width := text.length - point + (if whole.isEmpty then 1 else 0)
        let width := if text.head? = some '+' then width - 1 else width
        some
          { units := if negative then -value else value
            places
            width := if exponent = 0 then width else sign + (toString value.natAbs).length }

def Decimal.unitsAt (number : Decimal) (places : Nat) : Int :=
  number.units * Nat.pow 10 (places - number.places)

def unitsText (places : Nat) (width : Nat) (units : Int) : Chars :=
  let digits := Real.placePoint false places units.natAbs
  let sign := if units < 0 then ['-'] else []
  sign ++ Chars.padLeft '0' (width - sign.length) digits

/-- Writes numbers one after another. -/
def countUp (render : Int -> Chars) (between : Chars) (step last : Int) (first : Bool) :
    Nat -> Int -> Task Unit
  | 0, _ => return
  | bound + 1, current => do
      let beyond := if 0 < step then last < current else current < last
      if beyond then if !first then Task.say ['\n'] else return
      else
        Task.say ((if first then [] else between) ++ render current)
        countUp render between step last false bound (current + step)

/-- Whether a word is a number with a sign in front. -/
def isNegative (word : Chars) : Bool :=
  match word with
  | '-' :: next :: _ => next.isDigit || next = '.'
  | _ => false

/-! ## Formats -/

/-- A format with one conversion: what stands before it, the conversion, and what stands behind it.
-/
structure Template where
  before : Chars
  conversion : Format.Conversion
  behind : Chars

/-- The text up to the next percent sign that stands for a conversion, and what follows that sign.
-/
def splitTemplate : Chars -> Chars × Option Chars
  | [] => ([], none)
  | '%' :: '%' :: rest =>
      let (before, after) := splitTemplate rest
      ('%' :: before, after)
  | '%' :: rest => ([], some rest)
  | char :: rest =>
      let (before, after) := splitTemplate rest
      (char :: before, after)

def readTemplate (format : Chars) : Task Template := do
  let refuse (text : String) : Task Template :=
    Task.fail 1 ("format ".toList ++ quoted format ++ text.toList)
  match splitTemplate format with
  | (_, none) => refuse " has no % directive"
  | (before, some rest) =>
      let flags := rest.takeWhile (fun char => "-+#0 \x27".toList.contains char)
      let rest := rest.drop flags.length
      let width := rest.takeWhile Char.isDigit
      let rest := rest.drop width.length
      let (precision, rest) :=
        match rest with
        | '.' :: after =>
            let digits := after.takeWhile Char.isDigit
            (some (Chars.digitsValue digits), after.drop digits.length)
        | rest => (none, rest)
      match rest with
      | [] => refuse " ends in %"
      | kind :: after =>
          if !"aefgAEFG".toList.contains kind then
            refuse (String.ofList (" has unknown %".toList ++ kind :: " directive".toList))
          else
            match splitTemplate after with
            | (_, some _) => refuse " has too many % directives"
            | (behind, none) =>
                let conversion : Format.Conversion :=
                  { flags, width := Chars.digitsValue width, precision, kind }
                pure { before, conversion, behind }

/-- Writes a sequence of numbers. -/
def count (words : List Chars) : Task Unit := do
  let flags :=
    [given 's' ["separator"], flag 'w' ["equal-width"], given 'f' ["format"]]
  let start := words.takeWhile (fun word => !isNegative word)
  let numbers := words.drop start.length
  let arguments ← readArguments { flags, mixed := false } start
  let operands := arguments.operands ++ numbers
  let read (word : Chars) : Task Decimal := do
    match decimal? word with
    | some number => return number
    | none =>
        let what :=
          if (Chars.lower word).dropWhile (fun char => char = '-' || char = '+') = "nan".toList then
            "invalid \x27not-a-number\x27 argument: "
          else "invalid floating point argument: "
        Task.misuse 1 (what.toList ++ quoted word)
  if operands.isEmpty then Task.misuse 1 "missing operand".toList
  if 3 < operands.length then
    Task.misuse 1 ("extra operand ".toList ++ quoted (operands.getD 3 []))
  let template ← (arguments.value? 'f').mapM readTemplate
  let numbers ← operands.mapM read
  let one : Decimal := ⟨1, 0, 1⟩
  let (first, step, last) :=
    match numbers with
    | [first, step, last] => (first, step, last)
    | [first, last] => (first, one, last)
    | [last] => (one, one, last)
    | _ => (one, one, one)
  if step.units = 0 then
    Task.misuse 1 ("invalid Zero increment value: ".toList ++ quoted (operands.getD 1 []))
  if template.isSome && arguments.has 'w' then
    Task.misuse 1
      "format string may not be specified when printing equal width strings".toList
  let fine := max (max first.places step.places) last.places
  let shown := max first.places step.places
  let wide (number : Decimal) : Nat :=
    if shown = 0 then number.width - (if number.places = 0 then 0 else number.places + 1)
    else number.width - number.places + shown + (if number.places = 0 then 1 else 0)
  let width := if arguments.has 'w' then max (wide first) (wide last) else 0
  let scale : Int := Nat.pow 10 (fine - shown)
  let render (units : Int) : Chars :=
    match template with
    | some template =>
        let value : Real := ⟨units < 0, .finite units.natAbs (Nat.pow 10 fine)⟩
        template.before ++ template.conversion.real value ++ template.behind
    | none => unitsText shown width (units / scale)
  let between := (arguments.value? 's').getD ['\n']
  countUp render between (step.unitsAt fine) (last.unitsAt fine) true Work.bound (first.unitsAt fine)

/-! ## Repeating and copying -/

/-- Writes a text again and again. -/
def repeatText (text : Chars) : Nat -> Task Unit
  | 0 => return
  | bound + 1 => do
      match ← Work.write 1 text with
      | .ok _ => repeatText text bound
      | .error obstacle =>
          Task.fail 1 ("standard output: ".toList ++ obstacle.text.toList)

/-- Writes a line again and again. -/
def yes (words : List Chars) : Task Unit := do
  let arguments ← readArguments { flags := [] } words
  let line :=
    if arguments.operands.isEmpty then ['y', '\n']
    else Chars.join [' '] arguments.operands ++ ['\n']
  repeatText (List.replicate (8192 / line.length + 1) line).flatten Work.bound

/-- Writes portions to several descriptors. -/
def copyTo (descriptors : List Nat) : Nat -> Task Unit
  | 0 => return
  | bound + 1 => do
      match ← Work.read 0 Work.portion with
      | .error _ | .ok [] => return
      | .ok text =>
          for descriptor in descriptors do
            let _ ← Work.write descriptor text
          copyTo descriptors bound

/-- Copies what there is to read to the output and to files. -/
def tee (words : List Chars) : Task Unit := do
  let flags := [flag 'a' ["append"], flag 'i' ["ignore-interrupts"], flag 'p' []]
  let arguments ← readArguments { flags } words
  let appends := arguments.has 'a'
  let mut descriptors := [1]
  for path in arguments.operands do
    let opening : Opening :=
      { writes := true, creates := true, truncates := !appends, appends }
    match ← Work.openFile path opening with
    | .ok descriptor => descriptors := descriptors ++ [descriptor]
    | .error obstacle =>
        complainOf path obstacle
        Task.setStatus 1
  copyTo descriptors Work.bound

end Sequence
end Utility
end Machine
end AstLink
