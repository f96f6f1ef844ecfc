import AstLink.Machine.Utility.Sorting.Order
import AstLink.Machine.Utility.Source

namespace AstLink
namespace Machine
namespace Utility
namespace Repeating

/-!
`uniq`, which looks for lines that are equal to their neighbours.
-/

/-- Which groups of equal lines are parted from one another by empty lines. -/
inductive Parting where
  | none
  /-- An empty line before every group. -/
  | before
  /-- An empty line between groups. -/
  | between
  /-- An empty line behind every group. -/
  | behind
  /-- Empty lines before and behind all groups. -/
  | both
  deriving DecidableEq, Repr

/-- What is shown of lines. -/
structure Manner where
  fields : Nat := 0
  chars : Nat := 0
  width : Option Nat := none
  folded : Bool := false
  counted : Bool := false
  repeated : Bool := true
  single : Bool := true
  /-- Whether all lines of a group are shown, and not only the first. -/
  all : Bool := false
  parting : Parting := .none
  ending : Char := '\n'

def Manner.part (manner : Manner) (line : Chars) : Chars :=
  let skipField (line : Chars) : Chars :=
    (line.dropWhile Sorting.isBlank).dropWhile (fun char => !Sorting.isBlank char)
  let rec skipFields : Nat -> Chars -> Chars
    | 0, line => line
    | count + 1, line => if line.isEmpty then [] else skipFields count (skipField line)
  let line := (skipFields manner.fields line).drop manner.chars
  let line := (manner.width.map line.take).getD line
  if manner.folded then Chars.lower line else line

/-- Lines that are equal, latest first. -/
structure Group where
  lines : List Chars
  /-- Whether a group was shown before. -/
  later : Bool := false

/-- Shows a group of lines, and says whether it did. -/
def present (manner : Manner) (group : Group) : Task Bool := do
  let isRepeated := 1 < group.lines.length
  if group.lines.isEmpty || !(if isRepeated then manner.repeated else manner.single) then
    return group.later
  let part : Bool :=
    match manner.parting with
    | .none | .behind => false
    | .between => group.later
    | .before => true
    | .both => true
  if part then Task.say [manner.ending]
  let count :=
    if manner.counted then Chars.padLeft ' ' 7 (Chars.ofNat group.lines.length) ++ [' '] else []
  let lines := if manner.all then group.lines.reverse else group.lines.reverse.take 1
  for line in lines do
    Task.say (count ++ line ++ [manner.ending])
  if manner.parting = .behind then Task.say [manner.ending]
  return true

def add (manner : Manner) (group : Group) (line : Chars × Bool) : Task Group := do
  match group.lines with
  | before :: _ =>
      if manner.part before = manner.part line.1 then
        return { group with lines := line.1 :: group.lines }
      else
        let later ← present manner group
        return { lines := [line.1], later }
  | [] => return { group with lines := [line.1] }

/-- The ways of parting groups of repeated lines, and groups of all lines. -/
def partings (repeated : Bool) : List (String × Parting) :=
  if repeated then [("none", .none), ("prepend", .before), ("separate", .between)]
  else [("prepend", .before), ("append", .behind), ("separate", .between), ("both", .both)]

/-- The options of `uniq`. -/
def taking : Taking where
  flags :=
    [flag 'c' ["count"], flag 'd' ["repeated"], flag 'u' ["unique"], flag 'i' ["ignore-case"],
      flag 'D' [], flag 'z' ["zero-terminated"], given 'f' ["skip-fields"],
      given 's' ["skip-chars"], given 'w' ["check-chars"],
      { letter := '\x01', names := ["all-repeated"], giving := .wordIfJoined },
      { letter := '\x02', names := ["group"], giving := .wordIfJoined }] ++
      "0123456789".toList.map (fun digit => flag digit [])
  check := fun _ letter value => do
    let what? : Option String :=
      match letter with
      | 'f' => some "fields to skip"
      | 's' => some "bytes to skip"
      | 'w' => some "bytes to compare"
      | _ => none
    match what?, value with
    | some what, some text =>
        if !Chars.isNumber (text.dropWhile Chars.isSpace) then
          Task.fail 1 (text ++ (": invalid number of " ++ what).toList)
    | _, _ => return

def partingOf (repeated : Bool) (value : Option Chars) : Task Parting := do
  let known := partings repeated
  match value with
  | none => return if repeated then .none else .between
  | some word =>
      let option := if repeated then "--all-repeated" else "--group"
      let place ← choose 1 option.toList (known.map (fun entry => [entry.1])) word
      return ((known.map Prod.snd)[place]?).getD .none

/-- Whether a word gives how many characters are skipped, in the old way. -/
def isOldCount (word : Chars) : Bool :=
  match word with
  | '+' :: digits => Chars.isNumber digits
  | _ => false

/-- Shows lines, those that are equal to their neighbours once. -/
def run (words : List Chars) : Task Unit := do
  let arguments ← readArguments taking words
  let has := arguments.has
  let count (letter : Char) : Option Nat :=
    (arguments.value? letter).map (fun text => Chars.digitsValue (text.dropWhile Chars.isSpace))
  let digits := (arguments.options.map Prod.fst).filter Char.isDigit
  let old := arguments.operands.filter isOldCount
  let operands := arguments.operands.filter (fun word => !isOldCount word)
  let isGrouped := has '\x02'
  let isAll := has 'D' || has '\x01'
  let parting ←
    if isGrouped then partingOf false (arguments.value? '\x02')
    else if has '\x01' then partingOf true (arguments.value? '\x01')
    else pure Parting.none
  if isGrouped && (has 'c' || has 'd' || has 'u' || isAll) then
    Task.misuse 1 "--group is mutually exclusive with -c/-d/-D/-u".toList
  if isAll && has 'c' then
    Task.misuse 1 "printing all duplicated lines and repeat counts is meaningless".toList
  let manner : Manner :=
    { fields := (count 'f').getD (Chars.digitsValue digits)
      chars := (count 's').getD (Chars.digitsValue ((old.headD []).drop 1))
      width := count 'w'
      folded := has 'i'
      counted := has 'c'
      repeated := !has 'u'
      single := !(has 'd' || isAll)
      all := isAll || isGrouped
      parting
      ending := if has 'z' then '\x00' else '\n' }
  let (source, target) ←
    match operands with
    | [] => pure (['-'], none)
    | [source] | [source, ['-']] => pure (source, none)
    | [source, target] => pure (source, some target)
    | _ :: _ :: extra :: _ => Task.misuse 1 ("extra operand ".toList ++ quoted extra)
  match ← openSource source with
  | .error obstacle => Task.fail 1 (shownName source ++ ": ".toList ++ obstacle.text.toList)
  | .ok source =>
      match target with
      | none => pure ()
      | some path =>
          match ← Work.openFile path { writes := true, creates := true, truncates := true } with
          | .ok descriptor =>
              let _ ← Work.request (.duplicate descriptor 1)
              Work.close descriptor
          | .error obstacle => Task.fail 1 (shownName path ++ ": ".toList ++ obstacle.text.toList)
      let (group, obstacle) ←
        Feed.fold (add manner) Work.bound { source, separator := manner.ending } { lines := [] }
      match obstacle with
      | some obstacle =>
          Task.fail 1
            ("error reading ".toList ++ quoted source.name ++ ": ".toList ++ obstacle.text.toList)
      | none =>
          let any ← present manner group
          if any && manner.parting = .both then Task.say [manner.ending]

end Repeating
end Utility
end Machine
end AstLink
