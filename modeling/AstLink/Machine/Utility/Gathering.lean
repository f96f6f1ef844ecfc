import AstLink.Machine.Utility.Launching

namespace AstLink
namespace Machine
namespace Utility
namespace Gathering

/-!
`xargs`, which runs commands with words that are read.
-/

/-- How the words that are read become commands. -/
structure Manner where
  start : List Chars
  /-- How many words a command takes. -/
  count : Option Nat := none
  /-- How many lines a command takes. -/
  lines : Option Nat := none
  /-- How long the words of a command may be together. -/
  room : Nat := 131072
  /-- What is replaced by a line. -/
  hole : Option Chars := none
  shown : Bool := false
  asks : Bool := false

/-- A word that was read, and whether a line ends behind it. -/
abbrev Read := Chars × Bool

/-- Where reading is. -/
inductive Scan where
  | between
  | inWord
  | inQuote (mark : Char)
  | escaped

/-- Splits a text into words by blanks, with quotation marks and backslashes resolved; with `whole`
only lines are split, and blanks at their beginning left out.  A blank at the end of a line joins it
to the next.  If a mark is missing its partner, the words before and the mark are given. -/
def readQuoted (whole : Bool) : Scan -> Chars -> List Read -> Chars -> List Read × Option Char
  | .between, _, done, [] => (done.reverse, none)
  | .inQuote mark, _, done, [] => (done.reverse, some mark)
  | _, word, done, [] =>
      ((if word.isEmpty then done else (word.reverse, true) :: done).reverse, none)
  | .inQuote mark, word, done, char :: rest =>
      if char = mark then readQuoted whole .inWord word done rest
      else if char = '\n' then (done.reverse, some mark)
      else readQuoted whole (.inQuote mark) (char :: word) done rest
  | .escaped, word, done, char :: rest => readQuoted whole .inWord (char :: word) done rest
  | .between, word, done, char :: rest =>
      if char = '\x27' || char = '"' then readQuoted whole (.inQuote char) [] done rest
      else if char = '\\' then readQuoted whole .escaped [] done rest
      else if Chars.isSpace char then readQuoted whole .between word done rest
      else readQuoted whole .inWord [char] done rest
  | .inWord, word, done, char :: rest =>
      if char = '\x27' || char = '"' then readQuoted whole (.inQuote char) word done rest
      else if char = '\\' then readQuoted whole .escaped word done rest
      else if char = '\n' then readQuoted whole .between [] ((word.reverse, true) :: done) rest
      else if Chars.isSpace char && !whole then
        readQuoted whole .between [] ((word.reverse, false) :: done) rest
      else readQuoted whole .inWord (char :: word) done rest

def readParts (separator : Char) (text : Chars) : List Read :=
  let parts := Chars.splitOn separator text
  let parts := if parts.getLast? = some [] then parts.dropLast else parts
  parts.map (fun part => (part, true))

def fillHole (hole text : Chars) : Nat -> Chars -> Chars
  | _, [] => []
  | skipped + 1, _ :: rest => fillHole hole text skipped rest
  | 0, char :: rest =>
      if hole.isPrefixOf (char :: rest) then text ++ fillHole hole text (hole.length - 1) rest
      else char :: fillHole hole text 0 rest

def batches (manner : Manner) (group : List Chars) (size lines : Nat) :
    List Read -> List (List Chars)
  | [] => if group.isEmpty then [] else [group.reverse]
  | (word, ends) :: rest =>
      let room := manner.room - manner.start.foldl (fun sum word => sum + word.length + 1) 0
      let isFull := room < size + word.length + 1 && !group.isEmpty
      let before := if isFull then [group.reverse] else []
      let group := if isFull then [word] else word :: group
      let size := if isFull then word.length + 1 else size + word.length + 1
      let lines := (if isFull then 0 else lines) + (if ends then 1 else 0)
      let isDone := manner.count = some group.length || manner.lines = some lines
      if isDone then before ++ group.reverse :: batches manner [] 0 0 rest
      else before ++ batches manner group size lines rest

/-- Runs a command and waits for it.  A command that cannot be run, or that was killed or asks for
it, is the last. -/
def runCommand (manner : Manner) (words : List Chars) : Task Unit := do
  Task.flush
  let name := words.headD []
  if manner.shown || manner.asks then
    Task.complainText (Chars.join [' '] (words.map shownName))
    if manner.asks then
      Task.fail 1
        ("failed to open /dev/tty for reading: ".toList ++ Obstacle.noDevice.text.toList)
    Task.complainText ['\n']
  let command : Task Unit := do
    match ← Work.openFile "/dev/null".toList { reads := true } with
    | .ok descriptor =>
        let _ ← Work.request (.duplicate descriptor 0)
        if descriptor != 0 then Work.close descriptor
    | .error _ => pure ()
    let obstacle ← execute words
    Task.complain (name ++ ": ".toList ++ obstacle.text.toList)
    Task.stop (launchStatus obstacle)
  let status (result : Except Nat Unit) : Ending :=
    match result with
    | .error status => .exit status
    | .ok _ => .exit 0
  match ← Work.fork command (fun result _ => status result) with
  | .error obstacle => Task.fail 1 ("cannot fork: ".toList ++ obstacle.text.toList)
  | .ok process =>
      match ← waitForEnd process Work.bound with
      | .exit 0 => return
      | .exit 255 =>
          Task.fail 124 (name ++ ": exited with status 255; aborting".toList)
      | .exit 126 => Task.stop 126
      | .exit 127 => Task.stop 127
      | .exit _ => Task.setStatus 123
      | .signal signal =>
          Task.fail 125 (name ++ ": terminated by signal ".toList ++ Chars.ofNat signal.number)

/-- The character that a text names as a separator: itself, or behind a backslash a letter or a
number in base eight, or behind an `x` in base sixteen. -/
def separator? (text : Chars) : Option Char :=
  let number (base : Nat) (digits : Chars) : Option Char :=
    let value? (digit : Char) : Option Nat :=
      let value :=
        if digit.isDigit then digit.toNat - '0'.toNat else digit.toLower.toNat - 'a'.toNat + 10
      if digit.isAlphanum && value < base then some value else none
    if digits.isEmpty then none
    else do
      let value ← digits.foldlM (fun value digit => do return value * base + (← value? digit)) 0
      if value < 256 then some (Char.ofNat value) else none
  match text with
  | [char] => some char
  | ['\\', 'a'] => some '\x07'
  | ['\\', 'b'] => some '\x08'
  | ['\\', 'f'] => some '\x0c'
  | ['\\', 'n'] => some '\n'
  | ['\\', 'r'] => some '\r'
  | ['\\', 't'] => some '\t'
  | ['\\', 'v'] => some '\x0b'
  | ['\\', '\\'] => some '\\'
  | '\\' :: 'x' :: digits => number 16 digits
  | '\\' :: digits => number 8 digits
  | _ => none

/-! ## Options -/

/-- The options of `xargs`. -/
def flags : List Flag :=
  [flag '0' ["null"], given 'n' ["max-args"], given 'L' ["max-lines"], given 'I' [],
    { letter := 'i', names := ["replace"], giving := .wordIfJoined }, given 'd' ["delimiter"],
    given 'E' [], { letter := 'e', names := ["eof"], giving := .wordIfJoined },
    flag 'r' ["no-run-if-empty"], flag 't' ["verbose"], given 's' ["max-chars"],
    given 'a' ["arg-file"], given 'P' ["max-procs"], flag 'x' ["exit"], flag 'p' ["interactive"],
    flag 'o' ["open-tty"], { letter := 'l', giving := .wordIfJoined }]

def checkNumber (letter : Char) (value : Option Chars) : Task Unit := do
  if ['n', 'L', 's', 'P'].contains letter then
    let text := value.getD []
    if !Chars.isNumber text then
      Task.misuse 1
        ("invalid number \"".toList ++ text ++ "\" for -".toList ++ letter :: " option".toList)
    if Chars.digitsValue text = 0 && letter != 'P' then
      Task.misuse 1
        ("value ".toList ++ text ++ " for -".toList ++ letter :: " option should be >= 1".toList)

/-- Warns that an option takes the place of one before it. -/
def warn (old new : String) : Task Unit :=
  Task.complain
    ("warning: options " ++ old ++ " and " ++ new ++ " are mutually exclusive, ignoring previous " ++
      old ++ " value").toList

/-- How words become commands, after an option. -/
def after (manner : Manner) (option : Char × Option Chars) : Task Manner := do
  let (letter, value) := option
  let number := (value.map Chars.digitsValue).getD 1
  let set (name : String) (new : Manner) : Task Manner := do
    if manner.count.isSome && new.count.isNone then warn "--max-args" name
    if manner.lines.isSome && new.lines.isNone then warn "--max-lines" name
    if manner.hole.isSome && new.hole.isNone then warn "--replace" name
    return new
  match letter with
  | 'n' =>
      if manner.hole.isSome && number = 1 then return manner
      else set "--max-args/-n" { manner with count := some number, lines := none, hole := none }
  | 'L' => set "-L" { manner with lines := some number, count := none, hole := none }
  | 'l' => set "--max-lines/-l" { manner with lines := some number, count := none, hole := none }
  | 'I' | 'i' =>
      let hole := value.getD "\x7b\x7d".toList
      set "--replace/-I/-i" { manner with hole := some hole, count := none, lines := none }
  | 's' => return { manner with room := number }
  | 't' => return { manner with shown := true }
  | 'p' => return { manner with asks := true }
  | _ => return manner

def separatorOf (arguments : Arguments) : Task (Option Char) := do
  if arguments.last? "0d" = some '0' then return some '\x00'
  match arguments.value? 'd' with
  | none => return none
  | some text =>
      match separator? text with
      | some char => return some char
      | none =>
          Task.fail 1
            ("Invalid input delimiter specification ".toList ++ text ++
              (": the delimiter must be either a single character or an escape sequence " ++
                "starting with \\.").toList)

def textOf (path : Option Chars) : Task Chars := do
  match path with
  | none => return ((← Work.readAll 0).toOption).getD []
  | some path =>
      match ← readPath path with
      | .ok text => return text
      | .error obstacle =>
          Task.fail 1
            ("Cannot open input file ".toList ++ marked path ++ ": ".toList ++
              obstacle.text.toList)

/-- Runs commands with words that are read.  Something wrong with a word is complained about before
the last words that are good are handed on. -/
def run (words : List Chars) : Task Unit := do
  let check (_ : List (Char × Option Chars)) : Char -> Option Chars -> Task Unit := checkNumber
  let arguments ← readArguments { flags, mixed := false, check } words
  let start := if arguments.operands.isEmpty then ["echo".toList] else arguments.operands
  let manner ← arguments.options.foldlM after { start }
  let separator ← separatorOf arguments
  let text ← textOf (arguments.value? 'a')
  let (read, unclosed) :=
    match separator with
    | some char => (readParts char text, none)
    | none => readQuoted manner.hole.isSome .between [] [] text
  let ending := (arguments.last? "Ee").bind arguments.value?
  let read := read.takeWhile (fun entry => some entry.1 != ending)
  let taken := start.foldl (fun taken word => taken + word.length + 1) 0
  let fitting := read.takeWhile (fun entry => taken + entry.1.length + 1 ≤ manner.room)
  let failure : Option Chars :=
    if fitting.length < read.length then some "argument line too long".toList
    else
      unclosed.map (fun mark =>
        "unmatched ".toList ++ (if mark = '"' then "double" else "single").toList ++
          " quote; by default quotes are special to xargs unless you use the -0 option".toList)
  match manner.hole with
  | some hole =>
      for (line, _) in fitting do
        runCommand manner (start.map (fillHole hole line 0))
      if let some failure := failure then Task.fail 1 failure
  | none =>
      let groups := batches manner [] 0 0 fitting
      match failure with
      | none =>
          let groups := if groups.isEmpty && !arguments.has 'r' then [[]] else groups
          for group in groups do
            runCommand manner (start ++ group)
      | some failure =>
          let isOpen (group : List Chars) : Bool := manner.count != some group.length
          for group in groups.dropLast do
            runCommand manner (start ++ group)
          let last := groups.getLast?
          if let some group := last.filter (fun group => !isOpen group) then
            runCommand manner (start ++ group)
          Task.complain failure
          if let some group := last.filter isOpen then runCommand manner (start ++ group)
          Task.stop 1

end Gathering
end Utility
end Machine
end AstLink
