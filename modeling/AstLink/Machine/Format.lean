import AstLink.Machine.Real

namespace AstLink
namespace Machine
namespace Format

/-!
Formats: the escapes that stand for characters, and the conversions that write texts and numbers in
a width.
-/

/-- Whether a character is a digit of base eight. -/
def isOctal (char : Char) : Bool := '0' ≤ char && char ≤ '7'

/-- What an escape after its backslash stands for, and how many characters it takes.  An unknown
escape stands for the backslash alone and takes none. -/
def escape (rest : Chars) : Char × Nat :=
  let digits := (rest.takeWhile isOctal).take 3
  if !digits.isEmpty then
    let value := digits.foldl (fun value digit => value * 8 + (digit.toNat - '0'.toNat)) 0
    (Char.ofNat (value % 256), digits.length)
  else
    match rest with
    | '\\' :: _ => ('\\', 1)
    | 'a' :: _ => ('\x07', 1)
    | 'b' :: _ => ('\x08', 1)
    | 'e' :: _ => ('\x1b', 1)
    | 'f' :: _ => ('\x0c', 1)
    | 'n' :: _ => ('\n', 1)
    | 'r' :: _ => ('\r', 1)
    | 't' :: _ => ('\t', 1)
    | 'v' :: _ => ('\x0b', 1)
    | _ => ('\\', 0)

/-- A text with its escapes resolved, up to `\c`, which ends all output.  The result says whether
it was met.  `skipped` characters belong to the escape before. -/
def expandFrom (done : Chars) : Nat -> Chars -> Chars × Bool
  | _, [] => (done.reverse, false)
  | skipped + 1, _ :: rest => expandFrom done skipped rest
  | 0, char :: rest =>
      if char != '\\' then expandFrom (char :: done) 0 rest
      else
        match rest with
        | 'c' :: _ => (done.reverse, true)
        | _ =>
            let leading :=
              match rest with
              | '0' :: next :: _ => if isOctal next then 1 else 0
              | _ => 0
            let (result, count) := escape (rest.drop leading)
            expandFrom (result :: done) (count + leading) rest

def expand (text : Chars) : Chars × Bool := expandFrom [] 0 text

structure Conversion where
  flags : Chars := []
  width : Nat := 0
  precision : Option Nat := none
  kind : Char

namespace Conversion

def has (conversion : Conversion) (flag : Char) : Bool := conversion.flags.contains flag

/-- A text brought to the width of a conversion; `zeros` says whether it may be filled with zeros
behind a beginning. -/
def pad (conversion : Conversion) (zeros : Bool) (start text : Chars) : Chars :=
  let missing := conversion.width - (start.length + text.length)
  if conversion.has '-' then start ++ text ++ List.replicate missing ' '
  else if zeros && conversion.has '0' then start ++ List.replicate missing '0' ++ text
  else List.replicate missing ' ' ++ start ++ text

def text (conversion : Conversion) (text : Chars) : Chars :=
  let text :=
    match conversion.precision with
    | some count => text.take count
    | none => text
  conversion.pad false [] text

def sign (conversion : Conversion) (negative : Bool) : Chars :=
  if negative then ['-']
  else if conversion.has '+' then ['+']
  else if conversion.has ' ' then [' ']
  else []

/-- A whole number as a conversion writes it. -/
def integer (conversion : Conversion) (value : Int) : Chars :=
  let unsigned : Nat := (value % (Nat.pow 2 64)).toNat
  let marked := conversion.has '#' && unsigned != 0
  let (start, digits) : Chars × Chars :=
    match conversion.kind with
    | 'o' =>
        let digits := Nat.toDigits 8 unsigned
        ([], if marked then '0' :: digits else digits)
    | 'x' => (if marked then ['0', 'x'] else [], Nat.toDigits 16 unsigned)
    | 'X' => (if marked then ['0', 'X'] else [], (Nat.toDigits 16 unsigned).map Char.toUpper)
    | 'u' => ([], Nat.toDigits 10 unsigned)
    | _ => (conversion.sign (value < 0), Nat.toDigits 10 value.natAbs)
  let digits := if conversion.precision = some 0 && unsigned = 0 then [] else digits
  let digits := Chars.padLeft '0' (conversion.precision.getD 0) digits
  conversion.pad conversion.precision.isNone start digits

def real (conversion : Conversion) (value : Real) : Chars :=
  let digits :=
    Real.digitsFor conversion.kind (conversion.has '#') conversion.precision value.magnitude
  let digits := if conversion.kind.isUpper then digits.map Char.toUpper else digits
  let isFinite :=
    match value.magnitude with
    | .finite .. => true
    | _ => false
  let start := conversion.sign value.negative
  if isFinite && conversion.kind.toLower = 'a' then
    conversion.pad true (start ++ digits.take 2) (digits.drop 2)
  else conversion.pad isFinite start digits

end Conversion

end Format
end Machine
end AstLink
