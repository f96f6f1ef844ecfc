import AstLink.Machine.Utility.Dumping

namespace AstLink
namespace Machine
namespace Utility
namespace Comparing

/-!
Programs that compare two files: `cmp`, which finds the first byte in which they differ, and `comm`,
which tells their lines apart.
-/

/-! ## Bytes -/

/-- How bytes are compared. -/
structure Manner where
  all : Bool
  /-- Whether the bytes are shown as characters as well. -/
  shown : Bool
  silent : Bool

/-- Complains about the way in which `cmp` was called, and ends. -/
def misuse {α : Type} (text : Chars) : Task α := do
  Task.complain text
  Task.complain "Try \x27cmp --help\x27 for more information.".toList
  Task.stop 2

/-- A number of bytes. -/
def amount (option : String) (text : Chars) : Task Nat := do
  match Dumping.amount? text with
  | .ok value => return value
  | .error _ => misuse (("invalid --" ++ option ++ " value ").toList ++ marked text)

/-- A byte as a character: with a circumflex if it is a control character, behind `M-` if it is no
character at all. -/
def visible (char : Char) : Chars :=
  let code := char.toNat
  let low := code % 128
  let name :=
    if low < 32 then ['^', Char.ofNat (low + 64)]
    else if low = 127 then ['^', '?']
    else [Char.ofNat low]
  if 128 ≤ code then 'M' :: '-' :: name else name

/-- A byte in base eight. -/
def octal (char : Char) : Chars := Chars.padLeft ' ' 3 (Nat.toDigits 8 char.toNat)

/-- The places in which two texts differ, each with both characters. -/
def differences : Nat -> Chars -> Chars -> List (Nat × Char × Char)
  | place, first :: firsts, second :: seconds =>
      let rest := differences (place + 1) firsts seconds
      if first = second then rest else (place, first, second) :: rest
  | _, _, _ => []

def compareTexts (manner : Manner) (names : Chars × Chars) (first second : Chars) : Task Unit := do
  let common := min first.length second.length
  let width := (Chars.ofNat common).length
  let found := differences 1 first second
  if manner.all then
    for (place, one, other) in found do
      let shown :=
        if manner.shown then
          octal one ++ ' ' :: Chars.padRight ' ' 4 (visible one) ++ ' ' :: octal other ++ ' ' ::
            visible other
        else octal one ++ ' ' :: octal other
      Task.line (Chars.padLeft ' ' width (Chars.ofNat place) ++ ' ' :: shown)
  if !found.isEmpty then Task.setStatus 1
  match found.head? with
  | some (place, one, other) =>
      if !manner.all then
        if manner.silent then Task.stop 1
        let line := 1 + (first.take (place - 1)).count '\n'
        let what := if manner.shown then " differ: byte " else " differ: char "
        let shown :=
          if manner.shown then
            " is ".toList ++ octal one ++ ' ' :: visible one ++ ' ' :: octal other ++ ' ' ::
              visible other
          else []
        Task.line
          (names.1 ++ ' ' :: names.2 ++ what.toList ++ Chars.ofNat place ++ ", line ".toList ++
            Chars.ofNat line ++ shown)
        Task.stop 1
  | none => pure ()
  if first.length != second.length then
    if manner.silent then Task.stop 1
    let (name, shorter) :=
      if first.length < second.length then (names.1, first) else (names.2, second)
    if shorter.isEmpty then Task.complain ("EOF on ".toList ++ name ++ " which is empty".toList)
    else
      let lines := shorter.count '\n'
      let line :=
        if manner.all then []
        else if shorter.getLast? = some '\n' then ", line ".toList ++ Chars.ofNat lines
        else ", in line ".toList ++ Chars.ofNat (lines + 1)
      Task.complain
        ("EOF on ".toList ++ name ++ " after byte ".toList ++ Chars.ofNat shorter.length ++ line)
    Task.stop 1

def compareBytes (words : List Chars) : Task Unit := do
  modify (fun console =>
    { console with usage := some "cmp: Try \x27cmp --help\x27 for more information.\n".toList })
  let flags :=
    [flag 'b' ["print-bytes"], given 'i' ["ignore-initial"], flag 'l' ["verbose"],
      given 'n' ["bytes"], flag 's' ["quiet", "silent"]]
  let check (_ : List (Char × Option Chars)) (letter : Char) (value : Option Chars) :
      Task Unit := do
    let text := value.getD []
    match letter with
    | 'n' => let _ ← amount "bytes" text
    | 'i' =>
        for part in Chars.splitOn ':' text do
          let _ ← amount "ignore-initial" part
    | _ => return
  let arguments ← readArguments { flags, status := 2, check } words
  if arguments.has 'l' && arguments.has 's' then misuse "options -l and -s are incompatible".toList
  match arguments.operands with
  | [] => misuse "missing operand after \x27cmp\x27".toList
  | first :: rest =>
      let second := rest.headD ['-']
      let further := rest.drop 1
      let given := ((arguments.value? 'i').map (Chars.splitOn ':')).getD []
      let skip (place : Nat) : Task Nat := do
        match further[place]?, given with
        | some text, _ => amount "ignore-initial" text
        | none, [] => return 0
        | none, [text] => amount "ignore-initial" text
        | none, texts => amount "ignore-initial" (texts.getD place [])
      let skips := (← skip 0, ← skip 1)
      if let some extra := further[2]? then misuse ("extra operand ".toList ++ marked extra)
      let limit ← (arguments.value? 'n').mapM (amount "bytes")
      let manner : Manner :=
        { all := arguments.has 'l', shown := arguments.has 'b', silent := arguments.has 's' }
      let text (path : Chars) : Task Chars := do
        match ← readPath path with
        | .ok text => return text
        | .error obstacle =>
            if !manner.silent then Task.complain (path ++ ": ".toList ++ obstacle.text.toList)
            Task.stop 2
      if first != second then
        let part (skipped : Nat) (text : Chars) : Chars :=
          let text := text.drop skipped
          text.take (limit.getD text.length)
        let one ← text first
        let other ← text second
        compareTexts manner (first, second) (part skips.1 one) (part skips.2 other)

/-! ## Lines -/

/-- How lines are told apart. -/
structure Sides where
  separator : Chars
  ending : Char
  /-- Whether the lines of the first file only, of the second one only and of both are left out. -/
  omitted : Bool × Bool × Bool
  /-- Whether the lines must be in order, or need not be. -/
  ordered : Option Bool

structure Seen where
  firsts : Nat := 0
  seconds : Nat := 0
  boths : Nat := 0
  /-- Whether it was told that the lines of a file are not in order. -/
  warned : Bool × Bool := (false, false)

/-- Whether some line was in one file only. -/
def Seen.hasUnpaired (seen : Seen) : Bool := 0 < seen.firsts + seen.seconds

/-- Complains if two lines of a file that follow one another are not in order. -/
def checkOrder (sides : Sides) (isFirst : Bool) (before line : Option Chars) (seen : Seen) :
    Task Seen := do
  let warned := if isFirst then seen.warned.1 else seen.warned.2
  let wanted := sides.ordered = some true || (sides.ordered.isNone && seen.hasUnpaired)
  match before, line with
  | some before, some line =>
      if wanted && !warned && !Chars.notAfter before line then
        Task.complain
          ("file ".toList ++ (if isFirst then ['1'] else ['2']) ++ " is not in sorted order".toList)
        if sides.ordered = some true then Task.stop 1
        return { seen with
          warned := if isFirst then (true, seen.warned.2) else (seen.warned.1, true) }
      else return seen
  | _, _ => return seen

/-- Goes on behind a line of a file.  At the end of the file the last two lines are looked at again,
for it may only have turned out meanwhile that their order counts. -/
def step (sides : Sides) (isFirst : Bool) (before : Option Chars) (line : Chars) (rest : List Chars)
    (seen : Seen) : Task Seen :=
  match rest with
  | next :: _ => checkOrder sides isFirst (some line) (some next) seen
  | [] => checkOrder sides isFirst before (some line) seen

def Sides.write (sides : Sides) (separators : Nat) (line : Chars) : Task Unit :=
  Task.say ((List.replicate separators sides.separator).flatten ++ line ++ [sides.ending])

/-- Tells the lines of two files apart.  `before` are the lines before them. -/
def merge (sides : Sides) :
    Nat -> Option Chars × Option Chars -> List Chars -> List Chars -> Seen -> Task Seen
  | 0, _, _, _, seen => return seen
  | bound + 1, before, firsts, seconds, seen => do
      let (noFirst, noSecond, noBoth) := sides.omitted
      let one := if noFirst then 0 else 1
      let two := if noSecond then 0 else 1
      let takeFirst (line : Chars) (rest : List Chars) : Task Seen := do
        if !noFirst then sides.write 0 line
        let seen := { seen with firsts := seen.firsts + 1 }
        let seen ← step sides true before.1 line rest seen
        merge sides bound (some line, before.2) rest seconds seen
      let takeSecond (line : Chars) (rest : List Chars) : Task Seen := do
        if !noSecond then sides.write one line
        let seen := { seen with seconds := seen.seconds + 1 }
        let seen ← step sides false before.2 line rest seen
        merge sides bound (before.1, some line) firsts rest seen
      match firsts, seconds with
      | [], [] => return seen
      | line :: rest, [] => takeFirst line rest
      | [], line :: rest => takeSecond line rest
      | first :: firsts, second :: seconds =>
          if first = second then
            if !noBoth then sides.write (one + two) first
            let seen := { seen with boths := seen.boths + 1 }
            let seen ← step sides true before.1 first firsts seen
            let seen ← step sides false before.2 second seconds seen
            merge sides bound (some first, some second) firsts seconds seen
          else if Chars.notAfter first second then takeFirst first firsts
          else takeSecond second seconds

/-- Tells the lines of files apart. -/
def compareLines (words : List Chars) : Task Unit := do
  let flags :=
    [flag '1' [], flag '2' [], flag '3' [], flag 'z' ["zero-terminated"],
      flag '\x01' ["check-order"], flag '\x02' ["nocheck-order"], given '\x03' ["output-delimiter"],
      flag '\x04' ["total"]]
  let check (before : List (Char × Option Chars)) (letter : Char) (value : Option Chars) :
      Task Unit := do
    if letter = '\x03' && before.any (fun option => option.1 = '\x03' && option.2 != value) then
      Task.fail 1 "multiple output delimiters specified".toList
  let arguments ← readArguments { flags, check } words
  let ending := if arguments.has 'z' then '\x00' else '\n'
  match arguments.operands with
  | [] => Task.misuse 1 "missing operand".toList
  | [only] => Task.misuse 1 ("missing operand after ".toList ++ marked only)
  | first :: second :: rest =>
      if let extra :: _ := rest then Task.misuse 1 ("extra operand ".toList ++ marked extra)
      let separator := (arguments.value? '\x03').getD ['\t']
      let sides : Sides :=
        { separator := if separator.isEmpty then ['\x00'] else separator
          ending
          omitted := (arguments.has '1', arguments.has '2', arguments.has '3')
          ordered := (arguments.last? "\x01\x02").map (· = '\x01') }
      let lines (path : Chars) : Task (List Chars) := do
        match ← textOf? 1 path with
        | none => Task.stop 1
        | some text =>
            let parts := Chars.splitOn ending text
            return if parts.getLast? = some [] then parts.dropLast else parts
      let firsts ← lines first
      let seconds ← lines second
      let seen ← merge sides (firsts.length + seconds.length + 1) (none, none) firsts seconds {}
      if arguments.has '\x04' then
        let counts := [seen.firsts, seen.seconds, seen.boths].map Chars.ofNat
        Task.say (Chars.join sides.separator (counts ++ ["total".toList]) ++ [ending])
      if seen.warned.1 || seen.warned.2 then Task.fail 1 "input is not in sorted order".toList

end Comparing
end Utility
end Machine
end AstLink
