import AstLink.Machine.Format
import AstLink.Machine.Utility.Console

namespace AstLink
namespace Machine
namespace Utility
namespace Characters

/-!
`tr`, which replaces, deletes and squeezes characters.

A set of characters is written as a row of items.  The capital and the small letters are items of
their own when characters are replaced, because then they stand for one another.
-/

/-! ## Sets -/

structure CharClass where
  name : Chars
  chars : Chars

def classChars? (name : Chars) : Option Chars :=
  let ofClass (inClass : Char -> Bool) : Option Chars :=
    some (((List.range 128).map Char.ofNat).filter inClass)
  match String.ofList name with
  | "alnum" => ofClass Char.isAlphanum
  | "alpha" => ofClass Char.isAlpha
  | "blank" => ofClass (fun char => char = ' ' || char = '\t')
  | "cntrl" => ofClass (fun char => char.toNat < 32 || char.toNat = 127)
  | "digit" => ofClass Char.isDigit
  | "graph" => ofClass (fun char => isShown char && char != ' ')
  | "lower" => ofClass Char.isLower
  | "print" => ofClass isShown
  | "punct" => ofClass (fun char => isShown char && char != ' ' && !char.isAlphanum)
  | "space" => ofClass Chars.isSpace
  | "upper" => ofClass Char.isUpper
  | "xdigit" => ofClass (fun char => char.isDigit || "abcdefABCDEF".toList.contains char)
  | _ => none

inductive Item where
  | chars (chars : Chars)
  | named (members : CharClass)
  | equivalent (char : Char)
  /-- As many of a character as are needed. -/
  | fill (char : Char)

/-- A character of a set, and whether it was written with a backslash. -/
abbrev Mark := Char × Bool

/-- What is said of a backslash that has nothing behind it. -/
def loneBackslash : Chars :=
  "warning: an unescaped backslash at end of string is not portable".toList

/-- The characters of a set with escapes resolved, and what is to be said of them.  `skipped`
characters belong to the escape before. -/
def unescape : Nat -> Chars -> List Mark × List Chars
  | _, [] => ([], [])
  | skipped + 1, _ :: rest => unescape skipped rest
  | 0, '\\' :: [] => ([('\\', false)], [loneBackslash])
  | 0, '\\' :: rest =>
      let digits := (rest.takeWhile Format.isOctal).take 3
      let value := digits.foldl (fun value digit => value * 8 + (digit.toNat - '0'.toNat)) 0
      if 255 < value then
        let (marks, warnings) := unescape 2 rest
        let warning :=
          "warning: the ambiguous octal escape \\".toList ++ digits ++
            " is being\n\tinterpreted as the 2-byte sequence \\0".toList ++ digits.take 2 ++
            ", ".toList ++ digits.drop 2
        ((Char.ofNat (value / 8), true) :: marks, warning :: warnings)
      else
        let (char, count) := Format.escape rest
        let (char, count) :=
          if count = 0 || rest.head? = some 'e' then (rest.headD '\\', 1) else (char, count)
        let (marks, warnings) := unescape count rest
        ((char, true) :: marks, warnings)
  | 0, char :: rest =>
      let (marks, warnings) := unescape 0 rest
      ((char, false) :: marks, warnings)

def shownMark (char : Char) : Chars := if isShown char then [char] else controlText char

/-- A row of characters up to two others, and what follows those. -/
def upTo? (first second : Char) : List Mark -> Option (Chars × List Mark)
  | a :: b :: rest =>
      if a = (first, false) && b = (second, false) then some ([], rest)
      else (upTo? first second (b :: rest)).map (fun (before, rest) => (a.1 :: before, rest))
  | _ => none

/-- The count in a repeat, which is written in base eight if it begins with zero. -/
def repeatCount? (digits : Chars) : Option Nat :=
  if digits.isEmpty then some 0
  else if digits.head? = some '0' then
    if digits.all Format.isOctal then
      some (digits.foldl (fun value digit => value * 8 + (digit.toNat - '0'.toNat)) 0)
    else none
  else if Chars.isNumber digits then some (Chars.digitsValue digits)
  else none

/-- The item at the beginning of a set, if one begins with brackets there, and what follows it. -/
def bracketed? (marks : List Mark) : Task (Option (Item × List Mark)) := do
  let isRepeat : Bool :=
    match marks with
    | (_, _) :: (_, _) :: ('*', false) :: rest => rest.any (fun mark => mark = (']', false))
    | _ => false
  match marks with
  | ('[', false) :: (':', false) :: body =>
      match upTo? ':' ']' body with
      | some ([], _) => Task.fail 1 "missing character class name \x27[::]\x27".toList
      | some (name, rest) =>
          match classChars? name with
          | some chars => return some (.named ⟨name, chars⟩, rest)
          | none =>
              if isRepeat then return none
              else Task.fail 1 ("invalid character class ".toList ++ quoted name)
      | none => return none
  | ('[', false) :: ('=', false) :: body =>
      match upTo? '=' ']' body with
      | some ([], _) =>
          Task.fail 1 "missing equivalence class character \x27[==]\x27".toList
      | some ([char], rest) => return some (.equivalent char, rest)
      | some (text, _) =>
          if isRepeat then return none
          else
            Task.fail 1
              (text ++ ": equivalence class operand must be a single character".toList)
      | none => return none
  | _ => return none

/-- The repeat at the beginning of a set, if there is one, and what follows it. -/
def repeated? (marks : List Mark) : Task (Option (Item × List Mark)) := do
  match marks with
  | ('[', false) :: (char, _) :: ('*', false) :: body =>
      let digits := (body.takeWhile (fun mark => mark != (']', false))).map Prod.fst
      match body.drop digits.length with
      | [] => return none
      | _ :: rest =>
          match repeatCount? digits with
          | some 0 => return some (.fill char, rest)
          | some count => return some (.chars (List.replicate count char), rest)
          | none =>
              Task.fail 1
                ("invalid repeat count ".toList ++ quoted digits ++ " in [c*n] construct".toList)
  | _ => return none

def readItems : Nat -> List Mark -> Task (List Item)
  | 0, _ => return []
  | bound + 1, marks => do
      let found ←
        match ← bracketed? marks with
        | some found => pure (some found)
        | none => repeated? marks
      match found, marks with
      | some (item, rest), _ => return item :: (← readItems bound rest)
      | none, [] => return []
      | none, (first, _) :: ('-', false) :: (last, _) :: rest =>
          if last < first then
            Task.fail 1
              ("range-endpoints of \x27".toList ++ shownMark first ++ '-' :: shownMark last ++
                "\x27 are in reverse collating sequence order".toList)
          else
            let chars := (List.range (last.toNat - first.toNat + 1)).map (fun offset =>
              Char.ofNat (first.toNat + offset))
            return .chars chars :: (← readItems bound rest)
      | none, (char, _) :: rest => return .chars [char] :: (← readItems bound rest)

/-- Reads a set, and says what there is to be said of how it is written. -/
def readSet (text : Chars) : Task (List Item) := do
  let (marks, warnings) := unescape 0 text
  for warning in warnings do
    Task.complain warning
  readItems (marks.length + 1) marks

def Item.list : Item -> Chars
  | .chars text => text
  | .named members => members.chars
  | .equivalent char | .fill char => [char]

/-- The characters of items, one item of as many as are needed brought to a length. -/
def charsOf (length : Nat) (items : List Item) : Chars :=
  let known := items.foldl
    (fun count item =>
      match item with
      | .fill _ => count
      | item => count + item.list.length)
    0
  items.flatMap (fun item =>
    match item with
    | .fill char => List.replicate (length - known) char
    | item => item.list)

/-! ## Replacing -/

/-- A character that is replaced, or all letters of a case. -/
inductive Cell where
  | char (char : Char)
  | letters (capital : Bool)

/-- The cells of a set; with `cased` the letters of a case are one cell. -/
def cellsOf (cased : Bool) (length : Nat) (items : List Item) : List Cell :=
  items.flatMap (fun item =>
    let plain := (charsOf length [item]).map Cell.char
    match item with
    | .named members =>
        if !cased then plain
        else if members.name = "upper".toList then [.letters true]
        else if members.name = "lower".toList then [.letters false]
        else plain
    | _ => plain)

def lettersOf (capital : Bool) : Chars :=
  ((List.range 128).map Char.ofNat).filter (if capital then Char.isUpper else Char.isLower)

/-- Puts the cells of two sets side by side: what each character is replaced by, and whether the
second set was too short.  There is nothing if letters stand beside what are none. -/
def pairUp : List Cell -> List Cell -> Option (List (Char × Char) × List Cell)
  | [], _ => some ([], [])
  | cells, [] => some ([], cells)
  | .letters first :: cells, .letters second :: others => do
      let change (char : Char) : Char := if second then char.toUpper else char.toLower
      let pairs := (lettersOf first).map (fun char => (char, change char))
      let (more, left) ← pairUp cells others
      return (pairs ++ more, left)
  | .char _ :: _, .letters _ :: _ => none
  | .char char :: cells, .char other :: others => do
      let (more, left) ← pairUp cells others
      return ((char, other) :: more, left)
  | .letters first :: cells, .char other :: others => do
      let letters := lettersOf first
      let (here, there) := (letters.take (others.length + 1), letters.drop (others.length + 1))
      let chars := (Cell.char other :: others).filterMap (fun cell =>
        match cell with
        | .char char => some char
        | .letters _ => none)
      if (others.take (letters.length - 1)).any (fun cell =>
          match cell with
          | .letters _ => true
          | .char _ => false) then none
      else
        let (more, left) ← pairUp cells (others.drop (letters.length - 1))
        return (here.zip chars ++ more, there.map Cell.char ++ left)

/-- What characters are replaced by, for two sets; `other` is how the second was written. -/
def replacements (isOther truncated : Bool) (set : List Item) (other : List Item) :
    Task (List (Char × Char)) := do
  let fills := other.filter (fun item =>
    match item with
    | .fill _ => true
    | _ => false)
  if 1 < fills.length then
    Task.fail 1 "only one [c*] repeat construct may appear in string2".toList
  for item in other do
    match item with
    | .equivalent _ =>
        Task.fail 1 "[=c=] expressions may not appear in string2 when translating".toList
    | .named members =>
        if !(["upper".toList, "lower".toList].contains members.name) then
          Task.fail 1
            ("when translating, the only character classes that may appear in\n" ++
              "string2 are \x27upper\x27 and \x27lower\x27").toList
    | _ => pure ()
  let all := (List.range 256).map Char.ofNat
  let cased := !isOther && other.any (fun item =>
    match item with
    | .named _ => true
    | _ => false)
  let chars := charsOf 0 set
  let cells :=
    if isOther then (all.filter (fun char => !chars.contains char)).map Cell.char
    else cellsOf cased 0 set
  let length (cell : Cell) : Nat :=
    match cell with
    | .char _ => 1
    | .letters capital => (lettersOf capital).length
  let size := cells.foldl (fun total cell => total + length cell) 0
  let others :=
    if cased then
      let known := (other.flatMap Item.list).length - fills.length
      other.flatMap (fun item =>
        match item with
        | .fill char => List.replicate (size - known) (Cell.char char)
        | item => cellsOf true 0 [item])
    else (charsOf size other).map Cell.char
  let hasClass := set.any (fun item =>
    match item with
    | .named _ => true
    | _ => false)
  match pairUp cells others with
  | none => Task.fail 1 "misaligned [:upper:] and/or [:lower:] construct".toList
  | some (pairs, left) => do
      if isOther && hasClass && 1 < (pairs.map Prod.snd).eraseDups.length then
        Task.fail 1
          ("when translating with complemented character classes,\n" ++
            "string2 must map all characters in the domain to one").toList
      if left.isEmpty || truncated then return pairs
      match others.getLast? with
      | none => Task.fail 1 "when not truncating set1, string2 must be non-empty".toList
      | some (.letters _) =>
          Task.fail 1
            ("when translating with string1 longer than string2,\n" ++
              "the latter string must not end with a character class").toList
      | some (.char last) =>
          let rest := left.flatMap (fun cell =>
            match cell with
            | .char char => [char]
            | .letters capital => lettersOf capital)
          return pairs ++ rest.map (fun char => (char, last))

/-! ## Work -/

/-- A text in which neighbours that are equal and in a set are only one. -/
def squeeze (set : Chars) : Option Char -> Chars -> Chars
  | _, [] => []
  | before, char :: rest =>
      if before = some char && set.contains char then squeeze set before rest
      else char :: squeeze set (some char) rest

/-- A copy of what there is to read, portion by portion, each changed; what is known of the text
before is handed on. -/
def filterInput {α : Type} (change : α -> Chars -> Chars × α) : Nat -> α -> Task Unit
  | 0, _ => return
  | bound + 1, state => do
      match ← Work.read 0 Work.portion with
      | .error obstacle => Task.fail 1 ("read error: ".toList ++ obstacle.text.toList)
      | .ok [] => return
      | .ok text =>
          let (changed, state) := change state text
          Task.say changed
          filterInput change bound state

def refuseSets {α : Type} (text : Chars) (hint : String) : Task α := do
  Task.complain text
  if !hint.isEmpty then Task.complainText (hint ++ "\n").toList
  Task.pointToHelp
  Task.stop 1

/-- Replaces or deletes characters. -/
def run (words : List Chars) : Task Unit := do
  let flags :=
    [flag 'c' ["complement"], flag 'C' [], flag 'd' ["delete"], flag 's' ["squeeze-repeats"],
      flag 't' ["truncate-set1"]]
  let arguments ← readArguments { flags, mixed := false } words
  let deletes := arguments.has 'd'
  let squeezes := arguments.has 's'
  let isOther := arguments.has 'c' || arguments.has 'C'
  let (first, second) ←
    match arguments.operands with
    | [] => Task.misuse 1 "missing operand".toList
    | [first] => do
        if deletes = squeezes then
          refuseSets ("missing operand after ".toList ++ quoted first)
            (if deletes then "Two strings must be given when both deleting and squeezing repeats."
             else "Two strings must be given when translating.")
        pure (first, none)
    | [first, second] => do
        if deletes && !squeezes then
          refuseSets ("extra operand ".toList ++ quoted second)
            "Only one string may be given when deleting without squeezing repeats."
        pure (first, some second)
    | _ :: _ :: extra :: _ => refuseSets ("extra operand ".toList ++ quoted extra) ""
  let items ← readSet first
  let otherItems ← second.mapM readSet
  let hasFill := items.any (fun item =>
    match item with
    | .fill _ => true
    | _ => false)
  if hasFill then
    Task.fail 1 "the [c*] repeat construct may not appear in string1".toList
  let all := (List.range 256).map Char.ofNat
  let chars := charsOf 0 items
  let set := if isOther then all.filter (fun char => !chars.contains char) else chars
  let squeezing (set : Chars) (before : Option Char) (text : Chars) : Chars × Option Char :=
    (squeeze set before text, (text.getLast?).orElse (fun _ => before))
  match deletes, otherItems with
  | true, otherItems =>
      let other := charsOf 0 (otherItems.getD [])
      filterInput
        (fun before text =>
          let kept := text.filter (fun char => !set.contains char)
          if squeezes then squeezing other before kept else (kept, none))
        Work.bound none
  | false, none => filterInput (squeezing set) Work.bound none
  | false, some otherItems =>
      let pairs ← replacements isOther (arguments.has 't') items otherItems
      let table := pairs.reverse
      let map := (all.map (fun char => (table.lookup char).getD char)).toArray
      let other := charsOf set.length otherItems
      filterInput
        (fun before text =>
          let replaced := text.map (fun char => map.getD char.toNat char)
          if squeezes then squeezing other before replaced else (replaced, none))
        Work.bound none

end Characters
end Utility
end Machine
end AstLink
