namespace AstLink
namespace Text
namespace Similarity

/-!
How alike two words are, in exact arithmetic.

Two equal characters *match* when they stand no further apart than half the longer word's length
less one, and each character is used once, from left to right.  With `m` matches, and `t` half the
number of matches that come in a different order on the two sides, the measure of words of lengths
`p` and `q` is the mean of `m / p`, `m / q` and `(m - t) / m`.  It is a fraction, so it is compared
with a threshold, or with another measure, by multiplying out.
-/

structure Ratio where
  num : Nat
  den : Nat
  deriving Repr

namespace Ratio

def below (r s : Ratio) : Bool := r.num * s.den < s.num * r.den

end Ratio

/-- Marks the first unmarked place, from `low` up to but not including `high`, that holds the
character.  The result says nothing when there is no such place. -/
def mark? (char : Char) (low high : Nat) :
    Nat -> List (Char × Bool) -> Option (List (Char × Bool))
  | _, [] => none
  | place, (other, marked) :: rest =>
      if place < high ∧ low ≤ place ∧ char = other ∧ !marked then some ((other, true) :: rest)
      else (mark? char low high (place + 1) rest).map (fun rest => (other, marked) :: rest)

/-- The matched characters of the first word, in its order, and the second word with its matched
places marked. -/
def matching (reach : Nat) :
    Nat -> List Char -> List (Char × Bool) -> List Char × List (Char × Bool)
  | _, [], marks => ([], marks)
  | place, char :: rest, marks =>
      match mark? char (place - reach) (place + reach + 1) 0 marks with
      | some marks =>
          let (found, marks) := matching reach (place + 1) rest marks
          (char :: found, marks)
      | none => matching reach (place + 1) rest marks

/-- How alike two words are, from zero to one. -/
def measure (a b : List Char) : Ratio :=
  let p := a.length
  let q := b.length
  if p = 0 ∧ q = 0 then ⟨1, 1⟩
  else
    let (found, marks) := matching (max p q / 2 - 1) 0 a (b.map (fun char => (char, false)))
    let ordered := (marks.filter Prod.snd).map Prod.fst
    let m := found.length
    let t := ((found.zip ordered).filter (fun (x, y) => x != y)).length / 2
    if m = 0 then ⟨0, 1⟩
    else ⟨m * m * q + m * m * p + (m - t) * p * q, 3 * m * p * q⟩

/-- Whether a measure is high enough for one word to be offered in place of the other. -/
def isClose (r : Ratio) : Bool := !r.below ⟨7, 10⟩

/-- The word closest to a given one among those close to it.  Of two equally close words the later
one is taken. -/
def closest? {α : Type} (word : List Char) (name : α -> List Char) (known : List α) : Option α :=
  let better (best : Option (Ratio × α)) (item : α) : Option (Ratio × α) :=
    let ratio := measure word (name item)
    if !isClose ratio then best
    else
      match best with
      | some (top, kept) => if ratio.below top then some (top, kept) else some (ratio, item)
      | none => some (ratio, item)
  (known.foldl better none).map Prod.snd

end Similarity
end Text
end AstLink
