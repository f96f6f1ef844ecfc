import AstLink.Machine.Real
import AstLink.Machine.Utility.Console

namespace AstLink
namespace Machine
namespace Utility
namespace Sorting

/-!
The orders in which lines are sorted: by their characters, by numbers, by months or by versions, as
a whole or by parts of them.
-/

/-- How texts are compared. -/
structure Order where
  numeric : Bool := false
  general : Bool := false
  human : Bool := false
  month : Bool := false
  version : Bool := false
  random : Bool := false
  /-- Only blanks, letters and digits count. -/
  dictionary : Bool := false
  shown : Bool := false
  folded : Bool := false
  reverse : Bool := false
  /-- Whether blanks before the beginning, or before the end, of the text are skipped. -/
  blanksBefore : Bool := false
  blanksBehind : Bool := false
  deriving DecidableEq, Repr

namespace Order

def isUsual (order : Order) : Bool := { order with reverse := false } == ({} : Order)

/-- An order with what a letter asks for, given for the beginning or the end of a text or for both.
-/
def with? (order : Order) (before behind : Bool) (letter : Char) : Option Order :=
  match letter with
  | 'b' =>
      some
        { order with
          blanksBefore := order.blanksBefore || before
          blanksBehind := order.blanksBehind || behind }
  | 'd' => some { order with dictionary := true }
  | 'f' => some { order with folded := true }
  | 'g' => some { order with general := true }
  | 'h' => some { order with human := true }
  | 'i' => some { order with shown := true }
  | 'M' => some { order with month := true }
  | 'n' => some { order with numeric := true }
  | 'r' => some { order with reverse := true }
  | 'R' => some { order with random := true }
  | 'V' => some { order with version := true }
  | _ => none

/-- An order with what the letters at the beginning of a text ask for, and what follows them. -/
def read (before behind : Bool) : Order -> Chars -> Order × Chars
  | order, [] => (order, [])
  | order, letter :: rest =>
      match order.with? before behind letter with
      | some order => read before behind order rest
      | none => (order, letter :: rest)

/-- The letters of an order in which lines cannot be sorted, if it is one. -/
def contradiction? (order : Order) : Option Chars :=
  let ways :=
    [order.numeric, order.general, order.human, order.month,
      order.version || order.random || order.dictionary || order.shown]
  if (ways.filter id).length < 2 then none
  else
    let letters : List (Bool × Char) :=
      [(order.dictionary, 'd'), (order.folded, 'f'), (order.general, 'g'), (order.human, 'h'),
        (order.shown && !order.dictionary, 'i'), (order.month, 'M'), (order.numeric, 'n'),
        (order.random, 'R'), (order.version, 'V')]
    some ((letters.filter Prod.fst).map Prod.snd)

end Order

def isBlank (char : Char) : Bool := char = ' ' || char = '\t'

def compareTexts (a b : Chars) : Ordering :=
  if a = b then .eq else if a < b then .lt else .gt

/-! ## Numbers -/

/-- The number at the beginning of a text: whether it is negative, its whole part, and the digits
behind the point. -/
def numberOf (text : Chars) : Bool × Nat × Chars :=
  let text := text.dropWhile (fun char => isBlank char || char = '\n')
  let (negative, body) :=
    match text with
    | '-' :: rest => (true, rest)
    | rest => (false, rest)
  let digits := body.takeWhile Char.isDigit
  let part :=
    match body.drop digits.length with
    | '.' :: rest => Chars.trimEnd (fun char => char = '0') (rest.takeWhile Char.isDigit)
    | _ => []
  let whole := Chars.digitsValue digits
  (negative && !(whole = 0 && part.isEmpty), whole, part)

def compareNumbers (a b : Bool × Nat × Chars) : Ordering :=
  let size := (compare a.2.1 b.2.1).then (compareTexts a.2.2 b.2.2)
  match a.1, b.1 with
  | false, false => size
  | true, true => size.swap
  | true, false => .lt
  | false, true => .gt

/-- How large the unit is that a letter behind a number stands for; nothing has no unit. -/
def unitRank (text : Chars) : Int :=
  let text := text.dropWhile isBlank
  let (sign, body) : Int × Chars :=
    match text with
    | '-' :: rest => (-1, rest)
    | rest => (1, rest)
  let digits := body.takeWhile (fun char => char.isDigit || char = '.')
  if !digits.any (fun char => char.isDigit && char != '0') then 0
  else
    match (body.drop digits.length).head? with
    | some 'k' => sign
    | some letter =>
        let rank := ("KMGTPEZYRQ".toList.idxOf? letter).map (fun rank => Int.ofNat rank + 1)
        sign * rank.getD 0
    | none => 0

/-- Where a real number, or what is none, stands among the others. -/
def realRank (scanned : Real.Scanned) : Nat :=
  if !scanned.found then 0
  else
    match scanned.value.magnitude, scanned.value.negative with
    | .undefined, _ => 1
    | .infinite, true => 2
    | .finite _ _, _ => 3
    | .infinite, false => 4

def fraction (value : Real) : Int × Nat :=
  match value.magnitude with
  | .finite numerator denominator =>
      (if value.negative then -(Int.ofNat numerator) else Int.ofNat numerator, denominator)
  | _ => (0, 1)

/-- Compares the real numbers at the beginnings of texts. -/
def compareReals (a b : Chars) : Ordering :=
  let first := Real.scan Real.extended a
  let second := Real.scan Real.extended b
  let (above, below) := fraction first.value
  let (upper, lower) := fraction second.value
  (compare (realRank first) (realRank second)).then (compare (above * lower) (upper * below))

/-! ## Months and versions -/

/-- The number of the month that a text begins with, zero if it begins with none. -/
def monthOf (text : Chars) : Nat :=
  let name := (text.dropWhile isBlank).take 3 |>.map Char.toUpper
  let months :=
    ["JAN", "FEB", "MAR", "APR", "MAY", "JUN", "JUL", "AUG", "SEP", "OCT", "NOV", "DEC"]
  ((months.idxOf? (String.ofList name)).map (fun place => place + 1)).getD 0

/-- Where a character stands that is no digit, in the name of a version; digits and the end come
before all letters, a tilde even before the end. -/
def versionRank : Option Char -> Int
  | none => -1
  | some char =>
      if char.isDigit then 0
      else if char.isAlpha then Int.ofNat char.toNat
      else if char = '~' then -2
      else Int.ofNat char.toNat + 256

/-- Compares the parts of versions before their next numbers, and gives what follows them. -/
def compareMarks : Nat -> Chars -> Chars -> Ordering × Chars × Chars
  | 0, a, b => (.eq, a, b)
  | bound + 1, a, b =>
      let isMark (text : Chars) : Bool := (text.head?.map (fun char => !char.isDigit)).getD false
      if !isMark a && !isMark b then (.eq, a, b)
      else
        match compare (versionRank a.head?) (versionRank b.head?) with
        | .eq => compareMarks bound (a.drop 1) (b.drop 1)
        | order => (order, a, b)

/-- Compares versions: marks by their characters and numbers by their values, in turn. -/
def compareVersions : Nat -> Chars -> Chars -> Ordering
  | 0, _, _ => .eq
  | bound + 1, a, b =>
      if a.isEmpty && b.isEmpty then .eq
      else
        match compareMarks (a.length + b.length) a b with
        | (.eq, a, b) =>
            let first := a.takeWhile Char.isDigit
            let second := b.takeWhile Char.isDigit
            (compare (Chars.digitsValue first) (Chars.digitsValue second)).then
              (compareVersions bound (a.drop first.length) (b.drop second.length))
        | (order, _, _) => order

/-- The name of a file without its endings, each of which begins with a point and a letter. -/
def withoutEndings (name : Chars) : Chars :=
  let places := (List.range name.length).filter (fun place =>
    let pieces := Chars.splitOn '.' (name.drop place)
    pieces.head? = some [] && 1 < pieces.length &&
      pieces.tail.all (fun piece =>
        match piece with
        | [] => false
        | first :: rest =>
            (first.isAlpha || first = '~') &&
              rest.all (fun char => char.isAlphanum || char = '~')))
  match places with
  | [] => name
  | place :: _ => name.take place

def compareNames (a b : Chars) : Ordering :=
  let isHidden (name : Chars) : Bool := name.head? = some '.'
  let bound := a.length + b.length + 1
  match a.isEmpty, b.isEmpty, isHidden a, isHidden b with
  | true, true, _, _ => .eq
  | true, false, _, _ => .lt
  | false, true, _, _ => .gt
  | _, _, true, false => .lt
  | _, _, false, true => .gt
  | _, _, _, _ =>
      (compareVersions bound (withoutEndings a) (withoutEndings b)).then (compareVersions bound a b)

/-! ## Orders -/

def Order.compare (order : Order) (a b : Chars) : Ordering :=
  let prepare (text : Chars) : Chars :=
    let text :=
      if order.dictionary then text.filter (fun char => char.isAlphanum || isBlank char)
      else if order.shown then text.filter isShown
      else text
    if order.folded then text.map Char.toUpper else text
  let result :=
    if order.numeric then compareNumbers (numberOf a) (numberOf b)
    else if order.general then compareReals a b
    else if order.human then
      (Ord.compare (unitRank a) (unitRank b)).then (compareNumbers (numberOf a) (numberOf b))
    else if order.month then Ord.compare (monthOf a) (monthOf b)
    else if order.version then compareNames (prepare a) (prepare b)
    else compareTexts (prepare a) (prepare b)
  if order.reverse then result.swap else result

end Sorting
end Utility
end Machine
end AstLink
