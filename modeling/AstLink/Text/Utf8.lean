import AstLink.Bytes

namespace AstLink
namespace Text
namespace Utf8

/-!
UTF-8, read one byte at a time.

The reader is a machine whose state says what it still owes: nothing between two characters, or a
number of continuation bytes together with the range the next one must lie in.  The range is
narrower than `80..BF` right after `E0`, `ED`, `F0` and `F4`, which is what keeps out overlong
forms, surrogates and values beyond the last character.

Its output is a list of *units*.  A unit is a character, or `none` for one maximal malformed
piece: the longest start of a character that the following byte, or the end, breaks off.  Both
readings of a byte string are views of that list.  The strict one exists when every unit is a
character; the lossy one shows a replacement character for each malformed piece.
-/

/-- What the machine owes between two bytes. -/
inductive State where
  | ground
  /-- It owes `owed + 1` continuation bytes, the next one from `low` to `high`; `value` holds the
  bits read so far. -/
  | inside (owed : Nat) (low high : UInt8) (value : Nat)
  deriving DecidableEq, Repr

/-- The state and the units that a byte between characters leads to.  `C0`, `C1`, the
continuation bytes and everything above `F4` begin no character. -/
def lead (byte : UInt8) : State × List (Option Char) :=
  if byte < 0x80 then (.ground, [some (Char.ofNat byte.toNat)])
  else if byte < 0xc2 then (.ground, [none])
  else if byte < 0xe0 then (.inside 0 0x80 0xbf (byte.toNat % 0x20), [])
  else if byte = 0xe0 then (.inside 1 0xa0 0xbf 0, [])
  else if byte = 0xed then (.inside 1 0x80 0x9f (byte.toNat % 0x10), [])
  else if byte < 0xf0 then (.inside 1 0x80 0xbf (byte.toNat % 0x10), [])
  else if byte = 0xf0 then (.inside 2 0x90 0xbf 0, [])
  else if byte < 0xf4 then (.inside 2 0x80 0xbf (byte.toNat % 0x08), [])
  else if byte = 0xf4 then (.inside 2 0x80 0x8f (byte.toNat % 0x08), [])
  else (.ground, [none])

/-- One byte.  A byte outside the owed range ends a malformed piece and is then read afresh, so no
byte belongs to two pieces. -/
def step (state : State) (byte : UInt8) : State × List (Option Char) :=
  match state with
  | .ground => lead byte
  | .inside owed low high value =>
      if low ≤ byte ∧ byte ≤ high then
        let value := value * 0x40 + byte.toNat % 0x40
        match owed with
        | 0 => (.ground, [some (Char.ofNat value)])
        | owed + 1 => (.inside owed 0x80 0xbf value, [])
      else
        let (next, units) := lead byte
        (next, none :: units)

/-- The unit that the end of the bytes completes: an unfinished character is malformed. -/
def finish : State -> List (Option Char)
  | .ground => []
  | .inside .. => [none]

/-- A position of the machine: its state and the units read so far, the latest first. -/
structure Reading where
  state : State := .ground
  units : List (Option Char) := []

def Reading.feed (reading : Reading) (byte : UInt8) : Reading :=
  let (state, units) := step reading.state byte
  { state, units := units.reverse ++ reading.units }

def units (bytes : Bytes) : List (Option Char) :=
  let reading := bytes.foldl Reading.feed {}
  reading.units.reverse ++ finish reading.state

/-- The text of a byte string that is UTF-8 throughout. -/
def decode? (bytes : Bytes) : Option (List Char) :=
  let units := units bytes
  if units.all Option.isSome then some (units.filterMap id) else none

def replacement : Char := '\uFFFD'

/-- The text of any byte string, with one replacement character for each malformed piece. -/
def lossy (bytes : Bytes) : List Char :=
  (units bytes).map (fun unit => unit.getD replacement)

def encode (text : List Char) : Bytes :=
  text.flatMap String.utf8EncodeChar

end Utf8

def shown (bytes : Bytes) : String := String.ofList (Utf8.lossy bytes)

/-- The bytes of a literal word. -/
def bytes (text : String) : Bytes := Utf8.encode text.toList

end Text
end AstLink
