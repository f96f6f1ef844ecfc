import AstLink.Machine.Work

namespace AstLink
namespace Machine
namespace Utility

/-!
What small programs have in common: how they write, how they complain, and how they read their
options.

A program keeps back what it writes until there is enough of it or it has to complain about
something, and hands on the rest when it ends.
-/

/-- The state of a small program. -/
structure Console where
  /-- What the program calls itself. -/
  name : Chars
  environment : List (Chars × Chars) := []
  /-- What is kept back, latest first. -/
  held : List Chars := []
  heldSize : Nat := 0
  /-- How much is kept back at most. -/
  room : Nat := 4096
  /-- Why something could not be written. -/
  failure : Option Obstacle := none
  /-- The status with which the program ends if nothing else is said. -/
  status : Nat := 0
  /-- What is said to whoever called the program in a wrong way, if it is not the usual hint. -/
  usage : Option Chars := none

/-- What a small program does.  It may break off with a status. -/
abbrev Task := Work Console Nat

namespace Task

/-- Writes what was kept back. -/
def flush : Task Unit := do
  let console ← get
  if !console.held.isEmpty then
    set { console with held := [], heldSize := 0 }
    match ← Work.write 1 console.held.reverse.flatten with
    | .ok _ => return
    | .error obstacle => modify (fun console => { console with failure := some obstacle })

def say (text : Chars) : Task Unit := do
  modify (fun console =>
    { console with held := text :: console.held, heldSize := console.heldSize + text.length })
  let console ← get
  if console.room ≤ console.heldSize then flush

def line (text : Chars) : Task Unit := say (text ++ ['\n'])

/-- Writes a text to the output for complaints. -/
def complainText (text : Chars) : Task Unit := do
  let _ ← Work.write 2 text

/-- Complains without writing what was kept back before. -/
def complainFirst (text : Chars) : Task Unit := do
  complainText ((← get).name ++ ": ".toList ++ text ++ ['\n'])

def complain (text : Chars) : Task Unit := do
  flush
  complainFirst text

/-- Has the program end with a status, when it ends. -/
def setStatus (status : Nat) : Task Unit :=
  modify (fun console => { console with status })

def stop {α : Type} (status : Nat) : Task α := throw status

/-- Complains and ends. -/
def fail {α : Type} (status : Nat) (text : Chars) : Task α := do
  complain text
  stop status

def pointToHelp : Task Unit := do
  let console ← get
  complainText
    (console.usage.getD
      ("Try \x27".toList ++ console.name ++ " --help\x27 for more information.\n".toList))

/-- Complains about the way in which the program was called, and ends. -/
def misuse {α : Type} (status : Nat) (text : Chars) : Task α := do
  complain text
  pointToHelp
  stop status

end Task

/-! ## Names in complaints -/

def isShown (char : Char) : Bool := 32 ≤ char.toNat && char.toNat < 127

/-- Whether a character has a meaning of its own on a command line. -/
def isSign (char : Char) : Bool := " !\"$&()*;<=>?[\\^\x27\x60|".toList.contains char

/-- Whether a text needs quotation marks to be read back as one word. -/
def needsMarks (text : Chars) : Bool :=
  match text with
  | [] | ['\x7b'] | ['\x7d'] => true
  | first :: _ =>
      first = '#' || first = '~' || text.any (fun char => isSign char || !isShown char)

/-- How a control character is written behind a dollar sign. -/
def controlText (char : Char) : Chars :=
  match char with
  | '\n' => "\\n".toList
  | '\t' => "\\t".toList
  | '\r' => "\\r".toList
  | '\x07' => "\\a".toList
  | '\x08' => "\\b".toList
  | '\x0b' => "\\v".toList
  | '\x0c' => "\\f".toList
  | char => '\\' :: Chars.padLeft '0' 3 (Nat.toDigits 8 char.toNat)

/-- The rest of a text in single quotation marks, `controls` of whose characters are control
characters that go on from before. -/
def markedRest : Nat -> Chars -> Chars
  | _, [] => ['\x27']
  | controls, char :: rest =>
      if isShown char then
        let start := if controls = 0 then [] else ['\x27', '\x27']
        start ++ (if char = '\x27' then "\x27\\\x27\x27".toList else [char]) ++ markedRest 0 rest
      else
        let start := if controls = 0 then "\x27$\x27".toList else []
        start ++ controlText char ++ markedRest (controls + 1) rest

/-- Whether a character means the same between double quotation marks as between single ones. -/
def isTame (char : Char) : Bool := char.isAlphanum || " #~%+,-./:]_\x27".toList.contains char

def marked (text : Chars) : Chars :=
  if text.contains '\x27' && text.all isTame then '"' :: text ++ ['"']
  else '\x27' :: markedRest 0 text

def shownName (text : Chars) : Chars := if needsMarks text then marked text else text

/-- A text in quotation marks, with backslashes before what would be read in another way. -/
def quoted (text : Chars) : Chars :=
  let shown (char : Char) : Chars :=
    if char = '\x27' || char = '\\' then ['\\', char]
    else if isShown char then [char]
    else controlText char
  '\x27' :: text.flatMap shown ++ ['\x27']

/-! ## Options -/

/-- What an option is given. -/
inductive Giving where
  | nothing
  | word
  | wordIfJoined
  deriving DecidableEq, Repr

/-- An option that a program takes. -/
structure Flag where
  letter : Char
  names : List String := []
  giving : Giving := .nothing

/-- An option without anything given to it. -/
def flag (letter : Char) (names : List String) : Flag := { letter, names }

def given (letter : Char) (names : List String) : Flag := { letter, names, giving := .word }

/-- What was read of options: each with what it was given, latest first, and the other words, latest
first. -/
structure Reading where
  options : List (Char × Option Chars) := []
  operands : List Chars := []

/-- The words of a command line, read. -/
structure Arguments where
  options : List (Char × Option Chars)
  operands : List Chars

namespace Arguments

/-- Whether an option was set. -/
def has (arguments : Arguments) (letter : Char) : Bool :=
  arguments.options.any (fun option => option.1 = letter)

/-- What an option was given the last time. -/
def value? (arguments : Arguments) (letter : Char) : Option Chars :=
  (arguments.options.reverse.find? (fun option => option.1 = letter)).bind Prod.snd

def last? (arguments : Arguments) (letters : String) : Option Char :=
  (arguments.options.reverse.find? (fun option => letters.toList.contains option.1)).map Prod.fst

end Arguments

def refuse {α : Type} (status : Nat) (text : String) (option : Chars) (after : String) : Task α :=
  Task.misuse status (text.toList ++ '\x27' :: option ++ ['\x27'] ++ after.toList)

structure Taking where
  flags : List Flag
  /-- The status with which words that cannot be read end the program. -/
  status : Nat := 1
  /-- Whether options may come behind other words. -/
  mixed : Bool := true
  /-- Looks at each option as soon as it is read.  The options before it come first, latest first.
  -/
  check : List (Char × Option Chars) -> Char -> Option Chars -> Task Unit := fun _ _ _ => return
  /-- Whether an option that there is not is only complained about. -/
  lenient : Bool := false

def addOption (taking : Taking) (letter : Char) (value : Option Chars) (reading : Reading) :
    Task Reading := do
  taking.check reading.options letter value
  return { reading with options := (letter, value) :: reading.options }

/-- Reads the letters of a word.  The result says whether the next word was taken as well. -/
def readLetters (taking : Taking) (next : Option Chars) (reading : Reading) :
    Chars -> Task (Reading × Bool)
  | [] => return (reading, false)
  | letter :: letters => do
      let add (value : Option Chars) : Task Reading := addOption taking letter value reading
      match taking.flags.find? (fun flag => flag.letter = letter) with
      | none =>
          if !taking.lenient then refuse taking.status "invalid option -- " [letter] ""
          Task.complain ("invalid option -- \x27".toList ++ [letter, '\x27'])
          Task.setStatus taking.status
          readLetters taking next reading letters
      | some { giving := .nothing, .. } => readLetters taking next (← add none) letters
      | some { giving := .wordIfJoined, .. } =>
          return (← add (if letters.isEmpty then none else some letters), false)
      | some { giving := .word, .. } =>
          if !letters.isEmpty then return (← add (some letters), false)
          else
            match next with
            | some value => return (← add (some value), true)
            | none => refuse taking.status "option requires an argument -- " [letter] ""

/-- Reads a long option.  The result says whether the next word was taken as well. -/
def readName (taking : Taking) (next : Option Chars) (reading : Reading) (word : Chars) :
    Task (Reading × Bool) := do
  let status := taking.status
  let (name, value) : Chars × Option Chars :=
    match Chars.cut? '=' word with
    | some (name, value) => (name, some value)
    | none => (word, none)
  let all := taking.flags.flatMap (fun flag => flag.names.map (fun name => (name.toList, flag)))
  let fitting := all.filter (fun entry => name.isPrefixOf entry.1)
  let exact := fitting.filter (fun entry => entry.1 == name)
  let found :=
    match exact, fitting with
    | entry :: _, _ => some entry
    | [], entry :: others =>
        if others.all (fun other => other.2.letter = entry.2.letter) then some entry else none
    | [], [] => none
  match found with
  | none =>
      if fitting.isEmpty then refuse status "unrecognized option " ('-' :: '-' :: word) ""
      else
        let shown := fitting.flatMap (fun entry => " \x27--".toList ++ entry.1 ++ ['\x27'])
        Task.misuse status
          ("option \x27--".toList ++ name ++ "\x27 is ambiguous; possibilities:".toList ++ shown)
  | some (full, flag) =>
      let add (value : Option Chars) : Task Reading := addOption taking flag.letter value reading
      let shown := '-' :: '-' :: full
      match flag.giving, value, next with
      | .nothing, some _, _ => refuse status "option " shown " doesn\x27t allow an argument"
      | .nothing, none, _ => return (← add none, false)
      | _, some value, _ => return (← add (some value), false)
      | .wordIfJoined, none, _ => return (← add none, false)
      | .word, none, some value => return (← add (some value), true)
      | .word, none, none => refuse status "option " shown " requires an argument"

def readWords (taking : Taking) : Nat -> Reading -> List Chars -> Task Reading
  | 0, reading, _ => return reading
  | bound + 1, reading, words => do
      match words with
      | [] => return reading
      | ['-', '-'] :: rest => return { reading with operands := rest.reverse ++ reading.operands }
      | ('-' :: '-' :: name) :: rest =>
          let (reading, taken) ← readName taking rest.head? reading name
          readWords taking bound reading (if taken then rest.drop 1 else rest)
      | ('-' :: letter :: letters) :: rest =>
          let (reading, taken) ← readLetters taking rest.head? reading (letter :: letters)
          readWords taking bound reading (if taken then rest.drop 1 else rest)
      | word :: rest =>
          if taking.mixed then
            readWords taking bound { reading with operands := word :: reading.operands } rest
          else return { reading with operands := words.reverse ++ reading.operands }

def readArguments (taking : Taking) (words : List Chars) : Task Arguments := do
  let reading ← readWords taking (words.length + 1) {} words
  return { options := reading.options.reverse, operands := reading.operands.reverse }

/-- Which of some words an option was given, by its place.  Each word may be written in several
ways, and the beginning of one will do if it is the beginning of no other. -/
def choose (status : Nat) (option : Chars) (choices : List (List String)) (word : Chars) :
    Task Nat := do
  let fitting (fits : Chars -> Bool) : List Nat :=
    choices.zipIdx.filterMap (fun (names, place) =>
      if names.any (fun name => fits name.toList) then some place else none)
  match fitting (fun name => name == word), fitting word.isPrefixOf with
  | place :: _, _ | [], [place] => return place
  | [], others =>
      let what := if others.isEmpty then "invalid argument " else "ambiguous argument "
      Task.complain (what.toList ++ quoted word ++ " for ".toList ++ quoted option)
      Task.complainText "Valid arguments are:\n".toList
      for names in choices do
        let shown := Chars.join [',', ' '] (names.map (fun name => quoted name.toList))
        Task.complainText ("  - ".toList ++ shown ++ ['\n'])
      Task.pointToHelp
      Task.stop status

/-! ## Running a program -/

/-- What a small program does from its beginning to its end.  `failed` is the status with which it
ends when something could not be written. -/
def program (failed : Nat) (words : List Chars) (environment : List (Chars × Chars))
    (task : Task Unit) : Activity :=
  let all : Task Unit := do
    let result ← Work.outcome task
    Task.flush
    let console ← get
    match console.failure with
    | some obstacle =>
        Task.complain ("write error: ".toList ++ obstacle.text.toList)
        Task.setStatus failed
    | none =>
        match result with
        | .ok _ => return
        | .error status => Task.setStatus status
  all.activity { name := words.headD [], environment } (fun _ console => .exit console.status)

/-! ## Input -/

/-- All that there is to read at a path, or on the standard input for `-`. -/
def readPath (path : Chars) : Task (Except Obstacle Chars) := do
  if path = ['-'] then Work.readAll 0
  else
    match ← Work.openFile path { reads := true } with
    | .error obstacle => return .error obstacle
    | .ok descriptor =>
        let text ← Work.readAll descriptor
        Work.close descriptor
        return text

def orInput (operands : List Chars) : List Chars :=
  if operands.isEmpty then [['-']] else operands

def complainOf (path : Chars) (obstacle : Obstacle) : Task Unit := do
  Task.complain (shownName path ++ ": ".toList ++ obstacle.text.toList)

/-- All that there is to read at a path.  If it cannot be read, the program complains and will end
with a status. -/
def textOf? (status : Nat) (path : Chars) : Task (Option Chars) := do
  match ← readPath path with
  | .ok text => return some text
  | .error obstacle =>
      complainOf path obstacle
      Task.setStatus status
      return none

end Utility
end Machine
end AstLink
