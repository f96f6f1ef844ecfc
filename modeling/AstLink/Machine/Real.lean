import AstLink.Machine.Chars

namespace AstLink
namespace Machine

/-!
Real numbers as programs have them: a sign and a magnitude that is a fraction with a power of two
below, rounded to so many binary digits; and how they are written with decimal digits.

All digits are found with whole numbers, so what is written is the number itself, rounded once, and
a number that lies half way goes to the even neighbour.
-/

/-- How large a number is. -/
inductive Magnitude where
  | finite (numerator denominator : Nat)
  | infinite
  | undefined
  deriving DecidableEq, Repr

structure Real where
  negative : Bool
  magnitude : Magnitude
  deriving DecidableEq, Repr

namespace Real

def zero : Real := ⟨false, .finite 0 1⟩

def ofNat (number : Nat) : Real := ⟨false, .finite number 1⟩

/-- The whole number nearest to a fraction; the even one if two are. -/
def nearest (numerator denominator : Nat) : Nat :=
  let whole := numerator / denominator
  let rest := numerator % denominator
  if denominator < 2 * rest || (2 * rest = denominator && whole % 2 = 1) then whole + 1 else whole

/-- The exponent of the power of a base at or below a fraction that is not zero: the fraction
divided by that power is at least one and less than the base.  `start` is near it. -/
def exponentFrom (base numerator denominator : Nat) : Nat -> Int -> Int
  | 0, guess => guess
  | bound + 1, guess =>
      let scaled (exponent : Int) : Nat × Nat :=
        if 0 ≤ exponent then (numerator, denominator * Nat.pow base exponent.toNat)
        else (numerator * Nat.pow base exponent.natAbs, denominator)
      let (above, below) := scaled guess
      if above < below then exponentFrom base numerator denominator bound (guess - 1)
      else if below * base ≤ above then exponentFrom base numerator denominator bound (guess + 1)
      else guess

/-- The exponent of the power of two at or below a fraction that is not zero. -/
def binaryExponent (numerator denominator : Nat) : Int :=
  exponentFrom 2 numerator denominator 3
    (Int.ofNat (Nat.log2 numerator) - Int.ofNat (Nat.log2 denominator))

/-- The exponent of the power of ten at or below a fraction that is not zero. -/
def decimalExponent (numerator denominator : Nat) : Int :=
  let digits (number : Nat) : Int := Int.ofNat (toString number).length
  exponentFrom 10 numerator denominator 3 (digits numerator - digits denominator)

/-- A form of numbers: how many binary digits they have, and the exponents of the largest and of the
smallest that has all of them. -/
structure Form where
  digits : Nat
  largest : Int
  smallest : Int

def double : Form := ⟨53, 1023, -1022⟩

/-- The form that programs use that want to lose less. -/
def extended : Form := ⟨64, 16383, -16382⟩

/-- The number of a form that is nearest to a fraction, and whether it is out of range. -/
def round (form : Form) (numerator denominator : Nat) : Magnitude × Bool :=
  if numerator = 0 then (.finite 0 1, false)
  else
    let exponent := binaryExponent numerator denominator
    let unit := max exponent form.smallest - Int.ofNat form.digits + 1
    let (above, below) :=
      if 0 ≤ unit then (numerator, denominator * Nat.pow 2 unit.toNat)
      else (numerator * Nat.pow 2 unit.natAbs, denominator)
    let units := nearest above below
    let exact := units * below = above
    if units = 0 then (.finite 0 1, true)
    else
      let (top, bottom) :=
        if 0 ≤ unit then (units * Nat.pow 2 unit.toNat, 1) else (units, Nat.pow 2 unit.natAbs)
      if form.largest < binaryExponent top bottom then (.infinite, true)
      else (.finite top bottom, exponent < form.smallest && !exact)

/-! ## Reading -/

/-- A number at the beginning of a text, what follows it, and whether it was out of range. -/
structure Scanned where
  value : Real
  rest : Chars
  found : Bool
  outOfRange : Bool := false

def scanExponent (letter : Char) (text : Chars) : Int × Chars :=
  match text with
  | mark :: rest =>
      if mark.toLower != letter then (0, text)
      else
        let (negative, body) :=
          match rest with
          | '-' :: body => (true, body)
          | '+' :: body => (false, body)
          | body => (false, body)
        let digits := body.takeWhile Char.isDigit
        if digits.isEmpty then (0, text)
        else
          let value := Int.ofNat (min 100000 (Chars.digitsValue digits))
          (if negative then -value else value, body.drop digits.length)
  | [] => (0, text)

def hexValue (digit : Char) : Nat :=
  if digit.isDigit then digit.toNat - '0'.toNat else digit.toLower.toNat - 'a'.toNat + 10

/-- Whether a character is a digit in base sixteen. -/
def isHex (char : Char) : Bool :=
  char.isDigit || ('a' ≤ char.toLower && char.toLower ≤ 'f')

/-- The digits before and behind a point at the beginning of a text, and what follows them. -/
def scanDigits (isDigit : Char -> Bool) (text : Chars) : Chars × Chars × Chars :=
  let whole := text.takeWhile isDigit
  match text.drop whole.length with
  | '.' :: rest =>
      let part := rest.takeWhile isDigit
      if whole.isEmpty && part.isEmpty then ([], [], text)
      else (whole, part, rest.drop part.length)
  | rest => (whole, [], rest)

/-- Scans a number without a sign. -/
def scanMagnitude (form : Form) (text : Chars) : Option (Magnitude × Bool × Chars) :=
  let isHexadecimal :=
    match text with
    | '0' :: mark :: rest =>
        let (whole, part, _) := scanDigits isHex rest
        mark.toLower = 'x' && !(whole.isEmpty && part.isEmpty)
    | _ => false
  let power (base : Nat) (exponent : Int) : Nat × Nat :=
    if 0 ≤ exponent then (Nat.pow base exponent.toNat, 1) else (1, Nat.pow base exponent.natAbs)
  if isHexadecimal then
    let (whole, part, rest) := scanDigits isHex (text.drop 2)
    let digits := (whole ++ part).foldl (fun value digit => value * 16 + hexValue digit) 0
    let (exponent, rest) := scanExponent 'p' rest
    let (up, down) := power 2 (exponent - 4 * Int.ofNat part.length)
    let (magnitude, outOfRange) := round form (digits * up) down
    some (magnitude, outOfRange, rest)
  else
    let (whole, part, rest) := scanDigits Char.isDigit text
    if whole.isEmpty && part.isEmpty then
      let small := Chars.lower text
      if "infinity".toList.isPrefixOf small then some (.infinite, false, text.drop 8)
      else if "inf".toList.isPrefixOf small then some (.infinite, false, text.drop 3)
      else if "nan".toList.isPrefixOf small then some (.undefined, false, text.drop 3)
      else none
    else
      let digits := Chars.digitsValue (whole ++ part)
      let (exponent, rest) := scanExponent 'e' rest
      let exponent := exponent - Int.ofNat part.length
      let size := Int.ofNat (toString digits).length + exponent
      if digits = 0 then some (.finite 0 1, false, rest)
      else if 6000 < size then some (.infinite, true, rest)
      else if size < -6000 then some (.finite 0 1, true, rest)
      else
        let (up, down) := power 10 exponent
        let (magnitude, outOfRange) := round form (digits * up) down
        some (magnitude, outOfRange, rest)

/-- Scans a number, behind blanks. -/
def scan (form : Form) (text : Chars) : Scanned :=
  let start := text.dropWhile Chars.isSpace
  let (negative, body) :=
    match start with
    | '-' :: rest => (true, rest)
    | '+' :: rest => (false, rest)
    | rest => (false, rest)
  match scanMagnitude form body with
  | some (magnitude, outOfRange, rest) => ⟨⟨negative, magnitude⟩, rest, true, outOfRange⟩
  | none => ⟨zero, text, false, false⟩

/-! ## Writing -/

/-- A number of digits with a point before the last ones.  `point` says that there is a point even
before no digits. -/
def placePoint (point : Bool) (places digits : Nat) : Chars :=
  let text := Chars.padLeft '0' (places + 1) (Chars.ofNat digits)
  let whole := text.take (text.length - places)
  let part := text.drop (text.length - places)
  if places = 0 && !point then whole else whole ++ '.' :: part

/-- A fraction with so many digits behind the point. -/
def fixed (point : Bool) (places numerator denominator : Nat) : Chars :=
  placePoint point places (nearest (numerator * Nat.pow 10 places) denominator)

/-- The decimal digits of a fraction, one of them before the point, and the exponent. -/
def scientific (places numerator denominator : Nat) : Nat × Int :=
  if numerator = 0 then (0, 0)
  else
    let exponent := decimalExponent numerator denominator
    let shift := Int.ofNat places - exponent
    let (above, below) :=
      if 0 ≤ shift then (numerator * Nat.pow 10 shift.toNat, denominator)
      else (numerator, denominator * Nat.pow 10 shift.natAbs)
    let digits := nearest above below
    if digits = Nat.pow 10 (places + 1) then (Nat.pow 10 places, exponent + 1) else (digits, exponent)

/-- An exponent with its sign and at least two digits. -/
def exponentText (letter : Char) (exponent : Int) : Chars :=
  letter :: (if exponent < 0 then '-' else '+') ::
    Chars.padLeft '0' 2 (Chars.ofNat exponent.natAbs)

def withoutZeros (text : Chars) : Chars :=
  if text.contains '.' then
    let bare := Chars.trimEnd (fun char => char = '0') text
    if bare.getLast? = some '.' then bare.dropLast else bare
  else text

/-- A fraction in the shorter of the two ways, with so many digits that count. -/
def general (all : Bool) (precision numerator denominator : Nat) : Chars :=
  let precision := max precision 1
  let (digits, exponent) := scientific (precision - 1) numerator denominator
  let trim (text : Chars) : Chars := if all then text else withoutZeros text
  if -4 ≤ exponent && exponent < Int.ofNat precision then
    trim (fixed all (Int.ofNat precision - 1 - exponent).toNat numerator denominator)
  else trim (placePoint all (precision - 1) digits) ++ exponentText 'e' exponent

/-- A fraction in base sixteen, one digit before the point. -/
def hexadecimal (point : Bool) (places : Option Nat) (numerator denominator : Nat) : Chars :=
  let exponent := if numerator = 0 then 0 else binaryExponent numerator denominator
  let count := places.getD 13
  let shift := Int.ofNat (4 * count) - exponent
  let digits :=
    if 0 ≤ shift then nearest (numerator * Nat.pow 2 shift.toNat) denominator
    else nearest numerator (denominator * Nat.pow 2 shift.natAbs)
  let text := Chars.padLeft '0' (count + 1) (Nat.toDigits 16 digits)
  let whole := text.take (text.length - count)
  let part := text.drop (text.length - count)
  let part := if places.isNone then Chars.trimEnd (fun char => char = '0') part else part
  let sign := if exponent < 0 then '-' else '+'
  "0x".toList ++ whole ++ (if part.isEmpty && !point then [] else '.' :: part) ++
    'p' :: sign :: Chars.ofNat exponent.natAbs

/-- A number without its sign, as a conversion of a format writes it. -/
def digitsFor (kind : Char) (point : Bool) (precision : Option Nat) (magnitude : Magnitude) :
    Chars :=
  match magnitude with
  | .infinite => "inf".toList
  | .undefined => "nan".toList
  | .finite numerator denominator =>
      match kind.toLower with
      | 'e' =>
          let places := precision.getD 6
          let (digits, exponent) := scientific places numerator denominator
          placePoint point places digits ++ exponentText 'e' exponent
      | 'g' => general point (precision.getD 6) numerator denominator
      | 'a' => hexadecimal point precision numerator denominator
      | _ => fixed point (precision.getD 6) numerator denominator

end Real

end Machine
end AstLink
