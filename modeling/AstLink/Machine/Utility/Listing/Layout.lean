import AstLink.Machine.Chars

namespace AstLink
namespace Machine
namespace Utility
namespace Listing

/-!
How a list of names is laid out: one to a line, in columns that are filled downwards or across, or
one behind another with commas between them.
-/

/-- How names are laid out. -/
inductive Layout where
  | single
  /-- One to a line, with what is known of each. -/
  | long
  | commas
  | down
  | across
  deriving DecidableEq, Repr

structure Room where
  /-- How long a line is at most; there is no bound for zero. -/
  width : Nat := 80
  /-- How far tabs lie apart; there are none for zero. -/
  tab : Nat := 8
  ending : Char := '\n'

/-- Blanks and tabs from one place in a line to another. -/
def indent (tab : Nat) : Nat -> Nat -> Nat -> Chars
  | 0, _, _ => []
  | bound + 1, place, goal =>
      if goal ≤ place then []
      else if tab != 0 && (place + 1) / tab < goal / tab then
        '\t' :: indent tab bound (place + tab - place % tab) goal
      else ' ' :: indent tab bound (place + 1) goal

/-- How wide each of some columns is, when names of some lengths are filled into them. -/
def widths (isDown : Bool) (lengths : List Nat) (columns : Nat) : List Nat :=
  let rows := (lengths.length + columns - 1) / columns
  let columnOf (place : Nat) : Nat := if isDown then place / rows else place % columns
  (List.range columns).map (fun column =>
    lengths.zipIdx.foldl
      (fun width (length, place) =>
        if columnOf place = column then
          max width (if column + 1 = columns then length else length + 2)
        else width)
      (if columns = 1 then 0 else 3))

/-- The widths of as many columns as there is room for. -/
def fitting (isDown : Bool) (room : Nat) (lengths : List Nat) : Nat -> List Nat
  | 0 | 1 => [lengths.foldl max 0]
  | columns + 1 =>
      let found := widths isDown lengths (columns + 1)
      if found.sum < room then found else fitting isDown room lengths columns

def row (tab : Nat) (place : Nat) : List Chars -> List Nat -> Chars
  | [], _ => []
  | [name], _ => name
  | name :: names, widths =>
      let width := widths.headD 0
      let (here, goal) := (place + name.length, place + width)
      name ++ indent tab (goal + 1) here goal ++ row tab goal names (widths.drop 1)

def inColumns (isDown : Bool) (room : Room) (names : List Chars) : Chars :=
  let most := min names.length (max 1 (room.width / 3))
  let found := fitting isDown room.width (names.map List.length) most
  let columns := max 1 found.length
  let rows := (names.length + columns - 1) / columns
  let places (line : Nat) : List Nat :=
    (List.range columns).map (fun column =>
      if isDown then line + column * rows else line * columns + column)
  (List.range rows).flatMap (fun line =>
    row room.tab 0 ((places line).filterMap (fun place => names[place]?)) found ++ [room.ending])

/-- Names one behind another, with a sign and a blank between neighbours, or a line end where there
is not enough room. -/
def inARow (sign : Chars) (room : Room) : Nat -> List Chars -> Chars
  | _, [] => [room.ending]
  | place, name :: names =>
      let start := place + name.length
      let next := (names.head?.map List.length).getD 0
      let fits := room.width = 0 || start + next + 2 < room.width
      let between := if names.isEmpty then [] else sign ++ [if fits then ' ' else '\n']
      name ++ between ++ inARow sign room (if fits then start + 2 else 0) names

def Layout.lay (layout : Layout) (room : Room) (names : List Chars) : Chars :=
  if names.isEmpty then []
  else
    match layout with
    | .single | .long => names.flatMap (fun name => name ++ [room.ending])
    | .commas => inARow [','] room 0 names
    | .down | .across =>
        if room.width = 0 then inARow [' '] room 0 names
        else inColumns (layout = .down) room names

end Listing
end Utility
end Machine
end AstLink
