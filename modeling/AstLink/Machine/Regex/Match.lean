import AstLink.Machine.Regex.Basic

namespace AstLink
namespace Machine
namespace Regex

/-!
Where a pattern matches a text.

From a place in the text a pattern leads to places at which it may end.  They are kept in the order
in which they are preferred: what stands first in a pattern takes as much as it can, and of several
ways to the same place the first counts.  A pattern that does not look back at what was remembered
does not care how a place was reached, so no place has to be kept twice.

A match begins as early as it can, and is then as long as it can be.
-/

/-- How texts are matched. -/
structure Manner where
  /-- Upper and lower case letters are the same. -/
  folded : Bool := false
  /-- Lines within the text have a beginning and an end of their own. -/
  lined : Bool := false
  deriving DecidableEq, Repr

/-- A place in a text, and what was remembered on the way there: for each group where it began and
ended. -/
structure Spot where
  place : Nat
  before : Option Char
  rest : Chars
  groups : List (Nat × Nat × Nat) := []

namespace Spot

def start (text : Chars) : Spot := ⟨0, none, text, []⟩

/-- The place behind the next character. -/
def next (spot : Spot) : Spot :=
  match spot.rest with
  | [] => spot
  | char :: rest => { spot with place := spot.place + 1, before := some char, rest }

/-- A place further on. -/
def skip (spot : Spot) (count : Nat) : Spot :=
  (List.range count).foldl (fun spot _ => spot.next) spot

/-- Whether two places are as good as each other for what follows. -/
def same (backward : Bool) (a b : Spot) : Bool :=
  a.place = b.place && (!backward || a.groups == b.groups)

end Spot

def inWord (char : Option Char) : Bool := (char.map CharSet.word.inRanges).getD false

def atEdge (manner : Manner) (edge : Edge) (spot : Spot) : Bool :=
  let next := spot.rest.head?
  match edge with
  | .lineStart => spot.before.isNone || (manner.lined && spot.before = some '\n')
  | .lineEnd => next.isNone || (manner.lined && next = some '\n')
  | .textStart => spot.before.isNone
  | .textEnd => next.isNone
  | .wordStart => !inWord spot.before && inWord next
  | .wordEnd => inWord spot.before && !inWord next
  | .wordEdge => inWord spot.before != inWord next
  | .noWordEdge => inWord spot.before = inWord next

/-- Some spots without those that are no better than earlier ones. -/
def distinct (backward : Bool) : List Spot -> List Spot -> List Spot
  | _, [] => []
  | seen, spot :: spots =>
      if seen.any (Spot.same backward spot) then distinct backward seen spots
      else spot :: distinct backward (spot :: seen) spots

/-- The distinct ones of some spots.  A single one is distinct. -/
def prune (backward : Bool) (spots : List Spot) : List Spot :=
  match spots with
  | [] | [_] => spots
  | spots => distinct backward [] spots

def longestFirst (spots : List Spot) : List Spot :=
  match spots with
  | [] | [_] => spots
  | spots => spots.mergeSort (fun a b => b.place ≤ a.place)

/-- The spots that steps from some spots lead to, round by round until nothing new is found. -/
def closure (backward : Bool) (step : Spot -> List Spot) :
    Nat -> List Spot -> List Spot -> List Spot
  | 0, seen, _ => seen
  | bound + 1, seen, current =>
      let found := current.flatMap (fun spot =>
        (step spot).filter (fun other => spot.place < other.place))
      let new := (prune backward found).filter (fun spot =>
        !seen.any (Spot.same backward spot))
      if new.isEmpty then seen else closure backward step bound (seen ++ new) new

/-- The places that a run of characters of a set leads to, the furthest first. -/
def runOf (manner : Manner) (set : CharSet) : Nat -> Spot -> List Spot -> List Spot
  | 0, spot, done => spot :: done
  | bound + 1, spot, done =>
      match spot.rest with
      | [] => spot :: done
      | char :: _ =>
          if set.holds manner.folded char then runOf manner set bound spot.next (spot :: done)
          else spot :: done

def remembered? (text : Chars) (spot : Spot) (number : Nat) : Option Chars :=
  (spot.groups.lookup number).map (fun (first, last) => (text.drop first).take (last - first))

def sameText (manner : Manner) (a b : Chars) : Bool :=
  if manner.folded then Chars.lower a == Chars.lower b else a == b

def spots (manner : Manner) (backward : Bool) (text : Chars) : Pattern -> Spot -> List Spot
  | .empty, spot => [spot]
  | .one set, spot =>
      match spot.rest with
      | [] => []
      | char :: _ => if set.holds manner.folded char then [spot.next] else []
  | .edge edge, spot => if atEdge manner edge spot then [spot] else []
  | .group number inner, spot =>
      let ends := longestFirst (spots manner backward text inner spot)
      ends.map (fun ending =>
        { ending with
          groups :=
            (number, spot.place, ending.place) ::
              ending.groups.filter (fun group => group.1 != number) })
  | .again number, spot =>
      match remembered? text spot number with
      | none => []
      | some piece =>
          if sameText manner piece (spot.rest.take piece.length) then [spot.skip piece.length]
          else []
  | .both first second, spot =>
      prune backward
        ((spots manner backward text first spot).flatMap (spots manner backward text second))
  | .either first second, spot =>
      longestFirst
        (prune backward
          (spots manner backward text first spot ++ spots manner backward text second spot))
  | .many (.one set) least most, spot =>
      let bound := most.getD spot.rest.length
      let ends := runOf manner set bound spot []
      ends.filter (fun ending => spot.place + least ≤ ending.place)
  | .many inner least most, spot =>
      let step := spots manner backward text inner
      let needed :=
        (List.range least).foldl (fun spots _ => prune backward (spots.flatMap step)) [spot]
      let bound := (most.map (fun most => most - least)).getD (spot.rest.length + 1)
      longestFirst (closure backward step bound needed needed)

/-- A match: where it begins and ends, and what it remembers. -/
structure Found where
  first : Nat
  last : Nat
  groups : List (Nat × Nat × Nat)

/-- The longest match that begins at a place. -/
def matchAt? (manner : Manner) (pattern : Pattern) (text : Chars) (spot : Spot) : Option Found :=
  let ends := spots manner pattern.looksBack text pattern spot
  let longest (best : Option Spot) (ending : Spot) : Option Spot :=
    match best with
    | none => some ending
    | some other => if other.place < ending.place then some ending else some other
  (ends.foldl longest none).map (fun ending => ⟨spot.place, ending.place, ending.groups⟩)

/-- The first match that begins at a place or behind it. -/
def searchFrom? (manner : Manner) (pattern : Pattern) (text : Chars) :
    Nat -> Spot -> Option Found
  | 0, spot => matchAt? manner pattern text spot
  | bound + 1, spot =>
      match matchAt? manner pattern text spot with
      | some found => some found
      | none =>
          if spot.rest.isEmpty then none else searchFrom? manner pattern text bound spot.next

/-- The first match that begins at or behind a place of a text. -/
def search? (manner : Manner) (pattern : Pattern) (text : Chars) (place : Nat) : Option Found :=
  let spot := (Spot.start text).skip place
  if text.length < place then none
  else searchFrom? manner pattern text spot.rest.length spot

def Found.group (found : Found) (text : Chars) (number : Nat) : Chars :=
  let (first, last) :=
    if number = 0 then (found.first, found.last)
    else (found.groups.lookup number).getD (0, 0)
  (text.drop first).take (last - first)

end Regex
end Machine
end AstLink
