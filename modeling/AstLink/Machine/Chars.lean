import AstLink.Bytes

namespace AstLink
namespace Machine

/-!
Text on a machine.  Programs work on bytes; their texts are written here as lists of characters
from `U+0000` to `U+00FF`, one for each byte, so that a pattern can name the letters it looks for.
-/

/-- A text of a program: one character for each byte. -/
abbrev Chars := List Char

namespace Chars

def ofBytes (bytes : Bytes) : Chars := bytes.map (fun byte => Char.ofNat byte.toNat)

/-- The bytes of a text. -/
def toBytes (text : Chars) : Bytes := text.map (fun char => UInt8.ofNat char.toNat)

def ofNat (number : Nat) : Chars := (toString number).toList

def ofInt (number : Int) : Chars := (toString number).toList

/-- Whether a character is a blank or a line end. -/
def isSpace (char : Char) : Bool :=
  char = ' ' || char = '\t' || char = '\n' || char = '\x0b' || char = '\x0c' || char = '\r'

/-- The value of decimal digits; other characters count as they come. -/
def digitsValue (digits : Chars) : Nat :=
  digits.foldl (fun value digit => value * 10 + (digit.toNat - '0'.toNat)) 0

def isNumber (text : Chars) : Bool := !text.isEmpty && text.all Char.isDigit

def trimEnd (inClass : Char -> Bool) (text : Chars) : Chars :=
  (text.reverse.dropWhile inClass).reverse

/-- The pieces between the separators, empty ones included. -/
def splitOn (separator : Char) (text : Chars) : List Chars :=
  let pieces := text.foldr
    (fun char (piece, done) =>
      if char = separator then ([], piece :: done) else (char :: piece, done))
    (([] : Chars), ([] : List Chars))
  pieces.1 :: pieces.2

def linesBy (ending : Char) (text : Chars) : List Chars :=
  text.foldr
    (fun char (lines : List Chars) =>
      match lines with
      | [] => [[char]]
      | line :: rest => if char = ending then [char] :: line :: rest else (char :: line) :: rest)
    []

def lines (text : Chars) : List Chars := linesBy '\n' text

def bareLines (text : Chars) : List Chars :=
  match text.getLast? with
  | none => []
  | some '\n' => splitOn '\n' text.dropLast
  | some _ => splitOn '\n' text

/-- The text up to the first character that is equal to one, and what follows that character. -/
def cut? (separator : Char) (text : Chars) : Option (Chars × Chars) :=
  let before := text.takeWhile (fun char => char != separator)
  match text.drop before.length with
  | [] => none
  | _ :: after => some (before, after)

def padLeft (filler : Char) (width : Nat) (text : Chars) : Chars :=
  List.replicate (width - text.length) filler ++ text

def padRight (filler : Char) (width : Nat) (text : Chars) : Chars :=
  text ++ List.replicate (width - text.length) filler

/-- A small letter for a capital one. -/
def lower (text : Chars) : Chars := text.map Char.toLower

/-- Whether one text comes before another or is equal to it, byte by byte. -/
def notAfter : Chars -> Chars -> Bool
  | [], _ => true
  | _ :: _, [] => false
  | a :: as, b :: bs => a.toNat < b.toNat || (a = b && notAfter as bs)

def holds (part : Chars) : Chars -> Bool
  | [] => part.isEmpty
  | char :: chars => part.isPrefixOf (char :: chars) || holds part chars

def withoutSlashes (path : Chars) : Chars :=
  let bare := trimEnd (fun char => char = '/') path
  if bare.isEmpty then path.take 1 else bare

def lastName (path : Chars) : Chars := (path.reverse.takeWhile (fun char => char != '/')).reverse

def join (between : Chars) (texts : List Chars) : Chars := (texts.intersperse between).flatten

end Chars

end Machine
end AstLink
