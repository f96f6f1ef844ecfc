import AstLink.Machine.Utility.Source
import AstLink.Machine.Utility.Sorting.Order

namespace AstLink
namespace Machine
namespace Utility
namespace Sorting

/-!
`sort`, which sorts the lines of files, as a whole or by parts of them.  Lines that are equal by all
their parts are put in the order of their characters.
-/

/-! ## Parts of lines -/

/-- A place in a line: so many fields and then so many characters on from its beginning. -/
structure Place where
  fields : Nat
  chars : Nat

/-- The part of a line by which it is sorted.  The end is so many whole fields and then so many
characters on from the beginning of the line. -/
structure Key where
  first : Place
  last : Option Place
  order : Order

/-- A line from its next field on.  Without a separator every field begins with the blanks before
it. -/
def dropField (separator : Option Char) (line : Chars) : Chars :=
  match separator with
  | some separator => (line.dropWhile (fun char => char != separator)).drop 1
  | none => (line.dropWhile isBlank).dropWhile (fun char => !isBlank char)

def dropFields (separator : Option Char) : Nat -> Chars -> Chars
  | 0, line => line
  | count + 1, line =>
      if line.isEmpty then [] else dropFields separator count (dropField separator line)

def Key.text (separator : Option Char) (key : Key) (line : Chars) : Chars :=
  let skip (blanks : Bool) (text : Chars) : Chars :=
    if blanks then text.dropWhile isBlank else text
  let start :=
    (skip key.order.blanksBefore (dropFields separator key.first.fields line)).drop key.first.chars
  let after : Chars :=
    match key.last with
    | none => []
    | some ⟨fields, 0⟩ =>
        let rest := dropFields separator fields line
        match separator with
        | none => dropField none rest
        | some separator => rest.dropWhile (fun char => char != separator)
    | some ⟨fields, chars⟩ =>
        (skip key.order.blanksBehind (dropFields separator fields line)).drop chars
  start.take (start.length - after.length)

/-- Why a key cannot be read. -/
inductive KeyFailure where
  | noNumber (what : String) (rest : Chars)
  | invalid (what : String)

/-- What is said of a key that cannot be read. -/
def KeyFailure.message (text : Chars) : KeyFailure -> Chars
  | .noNumber what rest => what.toList ++ ": invalid count at start of ".toList ++ quoted rest
  | .invalid what => what.toList ++ ": invalid field specification ".toList ++ quoted text

def readNumber (what : String) (text : Chars) : Except KeyFailure (Nat × Chars) :=
  let digits := text.takeWhile Char.isDigit
  if digits.isEmpty then .error (.noNumber what text)
  else .ok (Chars.digitsValue digits, text.drop digits.length)

/-- Reads the number of a field, counted from one, and gives what follows it. -/
def readField (what : String) (text : Chars) : Except KeyFailure (Nat × Chars) := do
  match ← readNumber what text with
  | (0, _) => throw (.invalid "field number is zero")
  | (number + 1, rest) => return (number, rest)

/-- Reads a key.  One that says nothing about its order has the usual one. -/
def readKey (usual : Order) (text : Chars) : Except KeyFailure Key := do
  let (fields, rest) ← readField "invalid number at field start" text
  let (chars, rest) ←
    match rest with
    | '.' :: rest => do
        match ← readNumber "invalid number after \x27.\x27" rest with
        | (0, _) => throw (.invalid "character offset is zero")
        | (number + 1, rest) => pure (number, rest)
    | rest => pure (0, rest)
  let (order, rest) := Order.read true false {} rest
  let (last, order, rest) ←
    match rest with
    | ',' :: rest => do
        let (fields, rest) ← readField "invalid number after \x27,\x27" rest
        let (chars, rest) ←
          match rest with
          | '.' :: rest => readNumber "invalid number after \x27.\x27" rest
          | rest => pure (0, rest)
        let (order, rest) := Order.read false true order rest
        pure (some ⟨fields, chars⟩, order, rest)
    | rest => pure (none, order, rest)
  if !rest.isEmpty then throw (.invalid "stray character in field spec")
  return { first := ⟨fields, chars⟩, last, order := if order = {} then usual else order }

/-! ## Options -/

/-- What is sorted, and how. -/
structure Manner where
  keys : List Key
  /-- Whether lines that are equal by their keys are equal. -/
  stable : Bool
  unique : Bool
  reverse : Bool
  separator : Option Char

def Manner.compareKeys (manner : Manner) (a b : Chars) : Ordering :=
  manner.keys.foldl
    (fun result key =>
      result.then (key.order.compare (key.text manner.separator a) (key.text manner.separator b)))
    .eq

def Manner.compare (manner : Manner) (a b : Chars) : Ordering :=
  let whole := if manner.reverse then (compareTexts a b).swap else compareTexts a b
  if manner.keys.isEmpty then whole
  else (manner.compareKeys a b).then (if manner.stable || manner.unique then .eq else whole)

/-- Whether lines count as the same line. -/
def Manner.same (manner : Manner) (a b : Chars) : Bool :=
  if manner.keys.isEmpty then a == b else manner.compareKeys a b = .eq

/-- Drops every line that is the same as the one before it. -/
def withoutRepeats (same : Chars -> Chars -> Bool) : List Chars -> List Chars
  | [] => []
  | first :: rest =>
      match withoutRepeats same rest with
      | [] => [first]
      | second :: others => if same first second then first :: others else first :: second :: others

/-- The letters of options that words stand for. -/
def sortWords : List (List String × Char) :=
  [(["general-numeric"], 'g'), (["human-numeric"], 'h'), (["month"], 'M'), (["numeric"], 'n'),
    (["random"], 'R'), (["version"], 'V')]

/-- The options of `sort`. -/
def taking : Taking where
  flags :=
    [flag 'n' ["numeric-sort"], flag 'r' ["reverse"], flag 'u' ["unique"],
      flag 'f' ["ignore-case"], flag 'b' ["ignore-leading-blanks"], flag 'd' ["dictionary-order"],
      flag 's' ["stable"], flag 'c' [], flag 'C' [], flag 'h' ["human-numeric-sort"],
      flag 'g' ["general-numeric-sort"], flag 'm' ["merge"], flag 'V' ["version-sort"],
      flag 'i' ["ignore-nonprinting"], flag 'M' ["month-sort"], flag 'R' ["random-sort"],
      flag 'z' ["zero-terminated"], given 'k' ["key"], given 't' ["field-separator"],
      given 'o' ["output"], given 'S' ["buffer-size"], given 'T' ["temporary-directory"],
      { letter := '\x01', names := ["check"], giving := .wordIfJoined },
      given '\x02' ["sort"], given '\x03' ["parallel"]]
  status := 2
  check := fun _ letter value => do
    match letter, value.getD [] with
    | 't', [] => Task.fail 2 "empty tab".toList
    | 't', [_] | 't', ['\\', '0'] => return
    | 't', text => Task.fail 2 ("multi-character tab ".toList ++ quoted text)
    | 'k', text =>
        match readKey {} text with
        | .ok _ => return
        | .error failure => Task.fail 2 (failure.message text)
    | 'S', text =>
        let rest := text.dropWhile Char.isDigit
        let isSize := rest.length < text.length &&
          (rest.isEmpty || (rest.length = 1 && "%bEGgKkMmPTtYZ".toList.any rest.contains))
        if !isSize then Task.fail 2 ("invalid -S argument ".toList ++ quoted text)
    | _, _ => return

/-- The letters that options stand for, with words that stand for letters resolved. -/
def lettersOf (arguments : Arguments) : Task Chars :=
  arguments.options.mapM (fun (letter, value) => do
    match letter, value with
    | '\x01', some word =>
        let place ← choose 1 "--check".toList [["quiet", "silent"], ["diagnose-first"]] word
        return if place = 0 then 'C' else 'c'
    | '\x01', none => return 'c'
    | '\x02', some word =>
        let place ← choose 1 "--sort".toList (sortWords.map Prod.fst) word
        return ((sortWords.map Prod.snd)[place]?).getD 'n'
    | letter, _ => return letter)

/-! ## Work -/

/-- The lines of a file.  If they cannot be read, the program ends. -/
def linesAt (ending : Char) (path : Chars) : Task (List Chars) := do
  match ← readPath path with
  | .ok text =>
      let pieces := Chars.splitOn ending text
      return if pieces.getLast? = some [] then pieces.dropLast else pieces
  | .error obstacle =>
      let what := if obstacle = .isDirectory then "read failed: " else "cannot read: "
      Task.fail 2 (what.toList ++ shownName path ++ ": ".toList ++ obstacle.text.toList)

/-- Complains about the first line of a file that should not stand behind the line before it. -/
def check (manner : Manner) (loud : Bool) (ending : Char) (path : Chars) : Task Unit := do
  let lines ← linesAt ending path
  let isWrong (a b : Chars) : Bool :=
    let order := manner.compare a b
    order = .gt || (manner.unique && order = .eq)
  let pairs := (lines.zip (lines.drop 1)).zipIdx
  match pairs.find? (fun ((a, b), _) => isWrong a b) with
  | none => return
  | some ((_, line), place) =>
      if loud then
        Task.complain (path ++ ':' :: Chars.ofNat (place + 2) ++ ": disorder: ".toList ++ line)
      Task.setStatus 1

/-- Sorts lines. -/
def run (words : List Chars) : Task Unit := do
  let arguments ← readArguments taking words
  let letters ← lettersOf arguments
  let usual :=
    letters.foldl (fun (order : Order) letter => (order.with? true true letter).getD order) {}
  let separator :=
    match arguments.value? 't' with
    | some [char] => some char
    | some _ => some '\x00'
    | none => none
  let texts := arguments.options.filterMap (fun option =>
    if option.1 = 'k' then option.2 else none)
  let keys := texts.filterMap (fun text => (readKey usual text).toOption)
  let keys :=
    if keys.isEmpty && !usual.isUsual then [({ first := ⟨0, 0⟩, last := none, order := usual } : Key)]
    else keys
  match keys.findSome? (fun key => key.order.contradiction?) with
  | some letters =>
      Task.fail 2 ("options \x27-".toList ++ letters ++ "\x27 are incompatible".toList)
  | none => pure ()
  let has (letter : Char) : Bool := letters.contains letter
  let manner : Manner :=
    { keys, stable := has 's', unique := has 'u', reverse := usual.reverse, separator }
  let ending := if has 'z' then '\x00' else '\n'
  let paths := orInput arguments.operands
  if has 'c' || has 'C' then
    if has 'c' && has 'C' then Task.fail 2 "options \x27-cC\x27 are incompatible".toList
    let letter := if has 'c' then 'c' else 'C'
    if has 'o' then
      Task.fail 2 ("options \x27-".toList ++ letter :: "o\x27 are incompatible".toList)
    match paths with
    | _ :: extra :: _ =>
        Task.fail 2
          ("extra operand ".toList ++ quoted extra ++ " not allowed with -".toList ++ [letter])
    | _ => check manner (has 'c') ending (paths.headD ['-'])
  else
    let files ← paths.mapM (linesAt ending)
    let notAfter (a b : Chars) : Bool := manner.compare a b != .gt
    let sorted :=
      if has 'm' then files.foldl (fun lines file => lines.merge file notAfter) []
      else files.flatten.mergeSort notAfter
    let sorted := if manner.unique then withoutRepeats manner.same sorted else sorted
    let text := sorted.flatMap (fun line => line ++ [ending])
    match arguments.value? 'o' with
    | none => Task.say text
    | some path =>
        match ← Work.openFile path { writes := true, creates := true, truncates := true } with
        | .ok descriptor =>
            let _ ← Work.write descriptor text
            Work.close descriptor
        | .error obstacle =>
            Task.fail 2
              ("open failed: ".toList ++ shownName path ++ ": ".toList ++ obstacle.text.toList)

end Sorting
end Utility
end Machine
end AstLink
