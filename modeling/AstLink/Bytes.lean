namespace AstLink

/-!
Byte strings.  Paths, command-line words, file contents and everything a compiler prints are
sequences of bytes with no encoding attached; text enters only where something is shown to a
person.
-/

/-- A byte string.  It is a list, so that equality, concatenation and cutting are those of lists. -/
abbrev Bytes := List UInt8

namespace Bytes

def newline : UInt8 := 0x0a

def nul : UInt8 := 0x00

def slash : UInt8 := 0x2f

def dash : UInt8 := 0x2d

def equals : UInt8 := 0x3d

def dot : UInt8 := 0x2e

/-- Whether the bytes hold a NUL, which no argument of a started command may. -/
def hasNul (bytes : Bytes) : Bool := bytes.contains nul

/-- The pieces between the separators, empty ones included: one piece more than there are
separators, so joining them with the separator gives back the bytes. -/
def splitOn (separator : UInt8) (bytes : Bytes) : List Bytes :=
  let pieces := bytes.foldr
    (fun byte (piece, done) =>
      if byte = separator then ([], piece :: done) else (byte :: piece, done))
    (([] : Bytes), ([] : List Bytes))
  pieces.1 :: pieces.2

/-- The bytes up to the first separator and those after it, or nothing when there is none. -/
def cut? (separator : UInt8) (bytes : Bytes) : Option (Bytes × Bytes) :=
  match bytes.dropWhile (fun byte => byte != separator) with
  | [] => none
  | _ :: rest => some (bytes.takeWhile (fun byte => byte != separator), rest)

end Bytes

end AstLink
