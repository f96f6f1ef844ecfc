import AstLink.Machine.Utility.Sorting.Order
import AstLink.Machine.Utility.Source

namespace AstLink
namespace Machine
namespace Utility
namespace Columns

/-!
Columns of text: `cut`, which keeps some of them, and `paste`, which puts them side by side.
-/

/-! ## Ranges -/

/-- A range of places, counted from one; one without an end goes on for ever. -/
structure Range where
  first : Nat
  last : Option Nat

/-- Why a list of ranges cannot be read. -/
inductive RangeFailure where
  | zero
  | decreasing
  | notRange
  | noEnds
  | invalid (text : Chars)

/-- What is said of a list that cannot be read. -/
def RangeFailure.message (isField : Bool) (failure : RangeFailure) : Chars :=
  match failure with
  | .zero =>
      (if isField then "fields are numbered from 1"
       else "byte/character positions are numbered from 1").toList
  | .decreasing => "invalid decreasing range".toList
  | .notRange => (if isField then "invalid field range" else "invalid byte or character range").toList
  | .noEnds => "invalid range with no endpoint: -".toList
  | .invalid text =>
      (if isField then "invalid field value " else "invalid byte/character position ").toList ++
        quoted text

structure RangeReading where
  start : Option Nat := none
  dashed : Bool := false
  stop : Option Nat := none

def RangeReading.range (reading : RangeReading) : Except RangeFailure Range :=
  if reading.dashed then
    match reading.start, reading.stop with
    | none, none => .error .noEnds
    | start, none => .ok ⟨start.getD 1, none⟩
    | start, some stop =>
        if stop < start.getD 1 then .error .decreasing else .ok ⟨start.getD 1, some stop⟩
  else
    match reading.start with
    | none | some 0 => .error .zero
    | some place => .ok ⟨place, some place⟩

/-- Reads ranges, which blanks or commas stand between. -/
def readRanges (reading : RangeReading) : Chars -> Except RangeFailure (List Range)
  | [] => do return [← reading.range]
  | char :: rest =>
      if char = ',' || Sorting.isBlank char then do
        let range ← reading.range
        return range :: (← readRanges {} rest)
      else if char = '-' then
        if reading.dashed then .error .notRange
        else if reading.start = some 0 then .error .zero
        else readRanges { reading with dashed := true } rest
      else if char.isDigit then
        let longer (number : Option Nat) : Option Nat :=
          some (number.getD 0 * 10 + (char.toNat - '0'.toNat))
        if reading.dashed then readRanges { reading with stop := longer reading.stop } rest
        else readRanges { reading with start := longer reading.start } rest
      else .error (.invalid (char :: rest))

def Range.holds (range : Range) (place : Nat) : Bool :=
  range.first ≤ place && (range.last.map (fun last => decide (place ≤ last))).getD true

/-- Puts ranges that overlap together; they are in the order of their beginnings. -/
def mergeRanges : List Range -> List Range
  | [] => []
  | range :: rest =>
      match mergeRanges rest with
      | [] => [range]
      | next :: others =>
          if range.holds next.first then
            let last :=
              match range.last, next.last with
              | some a, some b => some (max a b)
              | _, _ => none
            ⟨range.first, last⟩ :: others
          else range :: next :: others

/-- The ranges that hold just the places which no range holds, from a place on. -/
def otherRanges : Nat -> List Range -> List Range
  | start, [] => [⟨start, none⟩]
  | start, range :: rest =>
      let before := if start < range.first then [(⟨start, some (range.first - 1)⟩ : Range)] else []
      match range.last with
      | none => before
      | some last => before ++ otherRanges (last + 1) rest

/-! ## Keeping columns -/

/-- Which columns are kept. -/
structure Manner where
  ranges : List Range
  isField : Bool
  separator : Char
  /-- What stands between columns that are kept, if it is not what stood there. -/
  between : Option Chars
  /-- Whether lines without a separator are left out. -/
  strict : Bool
  ending : Char

def Manner.kept {α : Type} (manner : Manner) (pieces : List α) : List (Nat × α) :=
  pieces.zipIdx.filterMap (fun (piece, place) =>
    if manner.ranges.any (fun range => range.holds (place + 1)) then some (place + 1, piece)
    else none)

/-- The characters that are kept of a line; with something to stand between ranges, before every
range but the first. -/
def Manner.chars (manner : Manner) (line : Chars) : Chars :=
  match manner.between with
  | none => (manner.kept line).map Prod.snd
  | some between =>
      (manner.kept line).zipIdx.flatMap (fun ((place, char), count) =>
        if count != 0 && manner.ranges.any (fun range => range.first = place) then between ++ [char]
        else [char])

def Manner.write (manner : Manner) (line : Chars) : Task Unit := do
  if !manner.isField then Task.say (manner.chars line ++ [manner.ending])
  else if line.contains manner.separator then
    let fields := (manner.kept (Chars.splitOn manner.separator line)).map Prod.snd
    Task.say
      (Chars.join (manner.between.getD [manner.separator]) fields ++ [manner.ending])
  else if !manner.strict then Task.say (line ++ [manner.ending])

/-- The options of `cut`. -/
def cutTaking : Taking where
  flags :=
    [given 'b' ["bytes"], given 'c' ["characters"], given 'f' ["fields"],
      given 'd' ["delimiter"], flag 's' ["only-delimited"], flag 'n' [],
      flag '\x01' ["complement"], given '\x02' ["output-delimiter"],
      flag 'z' ["zero-terminated"]]
  check := fun options letter value => do
    let isList (letter : Char) : Bool := ['b', 'c', 'f'].contains letter
    if isList letter && options.any (fun option => isList option.1) then
      Task.misuse 1 "only one list may be specified".toList
    if letter = 'd' && 1 < (value.getD []).length then
      Task.misuse 1 "the delimiter must be a single character".toList

/-- Keeps some columns of lines. -/
def cut (words : List Chars) : Task Unit := do
  let arguments ← readArguments cutTaking words
  let has := arguments.has
  let letter ←
    match arguments.last? "bcf" with
    | some letter => pure letter
    | none => Task.misuse 1 "you must specify a list of bytes, characters, or fields".toList
  let isField := letter = 'f'
  if !isField && has 'd' then
    Task.misuse 1 "an input delimiter may be specified only when operating on fields".toList
  if !isField && has 's' then
    Task.misuse 1
      ("suppressing non-delimited lines makes sense\n\tonly when operating on fields").toList
  let ranges ←
    match readRanges {} ((arguments.value? letter).getD []) with
    | .ok ranges => pure ranges
    | .error failure => Task.misuse 1 (failure.message isField)
  let ranges := mergeRanges (ranges.mergeSort (fun a b => a.first ≤ b.first))
  let manner : Manner :=
    { ranges := if has '\x01' then otherRanges 1 ranges else ranges
      isField
      separator := (arguments.value? 'd').elim '\t' (fun text => text.headD '\x00')
      between := arguments.value? '\x02'
      strict := has 's'
      ending := if has 'z' then '\x00' else '\n' }
  for path in orInput arguments.operands do
    if isField && manner.separator = manner.ending then
      match ← textOf? 1 path with
      | none | some [] => pure ()
      | some text =>
          manner.write (if text.getLast? = some manner.ending then text.dropLast else text)
    else
      foldLines 1 manner.ending (fun _ line => manner.write line.1) path ()

/-! ## Columns side by side -/

/-- Reads the separators that are taken in turn; each is one character or nothing. -/
def readSeparators : Chars -> Option (List Chars)
  | [] => some []
  | ['\\'] => none
  | '\\' :: letter :: rest => do
      let separator : Chars :=
        match letter with
        | '0' => []
        | 'b' => ['\x08']
        | 'f' => ['\x0c']
        | 'n' => ['\n']
        | 'r' => ['\r']
        | 't' => ['\t']
        | 'v' => ['\x0b']
        | letter => [letter]
      return separator :: (← readSeparators rest)
  | char :: rest => do return [char] :: (← readSeparators rest)

def joinInTurn (separators : List Chars) (pieces : List Chars) : Chars :=
  pieces.zipIdx.flatMap (fun (piece, place) =>
    if place = 0 then piece
    else separators.getD ((place - 1) % separators.length) [] ++ piece)

/-- The next row of files that are read side by side, files that are read twice being one, and
whether any of them had a line left. -/
def nextRow (feeds : List Feed) (input : Feed) :
    Task (List Feed × Feed × List Chars × Bool) := do
  let mut following : List Feed := []
  let mut input := input
  let mut row : List Chars := []
  let mut any := false
  for feed in feeds do
    let current := if feed.source.isInput then input else feed
    match ← current.line? with
    | .error obstacle =>
        complainOf current.source.name obstacle
        Task.setStatus 1
        following := following ++ [{ current with isOver := true }]
        row := row ++ [[]]
    | .ok (line, current) =>
        if feed.source.isInput then input := current
        following := following ++ [current]
        any := any || line.isSome
        row := row ++ [(line.map Prod.fst).getD []]
  return (following, input, row, any)

def writeRows (separators : List Chars) (ending : Char) :
    Nat -> List Feed -> Feed -> Task Unit
  | 0, _, _ => return
  | bound + 1, feeds, input => do
      let (feeds, input, row, any) ← nextRow feeds input
      if any then
        Task.say (joinInTurn separators row ++ [ending])
        writeRows separators ending bound feeds input

/-- Joins lines of files. -/
def paste (words : List Chars) : Task Unit := do
  let flags :=
    [flag 's' ["serial"], given 'd' ["delimiters"], flag 'z' ["zero-terminated"]]
  let arguments ← readArguments { flags } words
  let given := (arguments.value? 'd').getD ['\t']
  let separators ←
    match readSeparators given with
    | some separators => pure separators
    | none =>
        Task.fail 1 ("delimiter list ends with an unescaped backslash: ".toList ++ given)
  let ending := if arguments.has 'z' then '\x00' else '\n'
  let paths := orInput arguments.operands
  if arguments.has 's' then
    for path in paths do
      match ← openSource path with
      | .error obstacle =>
          complainOf path obstacle
          Task.setStatus 1
      | .ok source =>
          let step (lines : List Chars) (line : Chars × Bool) : Task (List Chars) :=
            return line.1 :: lines
          let (lines, obstacle) ← Feed.fold step Work.bound { source, separator := ending } []
          obstacle.forM (fun obstacle => do
            complainOf path obstacle
            Task.setStatus 1)
          Task.say (joinInTurn separators lines.reverse ++ [ending])
          closeSource source
  else
    let feeds ← paths.mapM (fun path => do
      match ← openSource path with
      | .ok source => return ({ source, separator := ending } : Feed)
      | .error obstacle => Task.fail 1 (shownName path ++ ": ".toList ++ obstacle.text.toList))
    let input : Feed := { source := ⟨0, "standard input".toList, true⟩, separator := ending }
    writeRows separators ending Work.bound feeds input

end Columns
end Utility
end Machine
end AstLink
