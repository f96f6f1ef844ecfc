import AstLink.Machine.Signal
import AstLink.Machine.Utility.Console

namespace AstLink
namespace Machine
namespace Utility
namespace Signalling

/-!
`kill`, the program: it sends signals to processes, and shows the names of signals.

The first word behind a hyphen that names a signal is the signal to be sent, wherever it
stands.  What is left is read as options and processes.
-/

/-- The names of the signals that are not for real-time use, the first one first. -/
def names : List Chars :=
  ((Signal.names.take 32).drop 1).map (fun name =>
    (if name = "16" then "STKFLT" else if name = "IO" then "POLL" else name).toList)

def otherNames : List (String × Nat) :=
  [("EXIT", 0), ("NULL", 0), ("IOT", 6), ("CLD", 17), ("IO", 29), ("RTMIN", 34), ("RTMAX", 64)]

/-- The number of a signal by one of its first names. -/
def byName? (name : Chars) : Option Nat := (names.findIdx? (· == name)).map (· + 1)

/-- A name in capital letters, without what names of signals may begin with. -/
def bare (text : Chars) : Chars :=
  let name := text.map Char.toUpper
  if "SIG".toList.isPrefixOf name then name.drop 3 else name

/-- The number of a signal that is given by its number or by any of its names. -/
def number? (text : Chars) : Option Nat :=
  let name := bare text
  if Chars.isNumber text then
    let number := Chars.digitsValue text
    if number ≤ 93 then some number else none
  else
    match byName? name, otherNames.lookup (String.ofList name) with
    | some number, _ => some number
    | none, some number => some number
    | none, none =>
        let start := "RTMIN+".toList
        let digits := name.drop start.length
        if start.isPrefixOf name && Chars.isNumber digits then some (34 + Chars.digitsValue digits)
        else none

/-- How the program is used. -/
def help : String :=
  "\nUsage:\n kill [options] <pid> [...]\n\nOptions:\n" ++
  " <pid> [...]            send signal to every <pid> listed\n" ++
  " -<signal>, -s, --signal <signal>\n" ++
  "                        specify the <signal> to be sent\n" ++
  " -q, --queue <value>    integer value to be sent with the signal\n" ++
  " -l, --list=[<signal>]  list all signal names, or convert one to a name\n" ++
  " -L, --table            list all signal names in a nice table\n\n" ++
  " -h, --help     display this help and exit\n" ++
  " -V, --version  output version information and exit\n\n" ++
  "For more details see kill(1).\n"

/-- Tells how the program is used, and ends. -/
def explain {α : Type} : Task α := do
  Task.complainText help.toList
  Task.stop 1

def refuseLetter {α : Type} (letter : Char) : Task α := do
  Task.complain ("invalid argument ".toList ++ [letter])
  explain

/-- Words joined with blanks in lines that are not longer than a width. -/
def fillLines (width : Nat) : Chars -> List Chars -> List Chars
  | line, [] => [line]
  | line, word :: words =>
      if line.isEmpty then fillLines width word words
      else if width < line.length + 1 + word.length then line :: fillLines width word words
      else fillLines width (line ++ ' ' :: word) words

def showNames (wanted : Option Chars) : Task Unit := do
  match wanted with
  | none =>
      for line in fillLines 78 [] names do
        Task.line line
  | some text =>
      let byNumber :=
        if Chars.isNumber text && text != ['0'] then names[Chars.digitsValue text - 1]? else none
      match byNumber, byName? (bare text) with
      | some name, _ => Task.line name
      | none, some number => Task.line (Chars.ofNat number)
      | none, none => Task.complain ("unknown signal name ".toList ++ text)

/-- How many signals stand in one line of the table. -/
def tableColumns : Nat := 7

def showTable : Task Unit := do
  for (name, place) in names.zipIdx do
    let cell := Chars.padLeft ' ' 2 (Chars.ofNat (place + 1)) ++ ' ' :: name
    if (place + 1) % tableColumns = 0 then Task.line cell else Task.say (Chars.padRight ' ' 11 cell)
  if names.length % tableColumns != 0 then Task.line []

/-- A whole number, which may have a sign and blanks before it. -/
def whole? (text : Chars) : Option Int :=
  let text := text.dropWhile Chars.isSpace
  let (sign, digits) : Int × Chars :=
    match text with
    | '-' :: digits => (-1, digits)
    | '+' :: digits => (1, digits)
    | digits => (1, digits)
  if Chars.isNumber digits then some (sign * Int.ofNat (Chars.digitsValue digits)) else none

def send (signal : Option Nat) (process : Int) : Task (Except Obstacle Unit) := do
  match signal with
  | some signal => Work.expectDone (.send signal process)
  | none => return .error .invalid

def sendAll (signal : Option Nat) (targets : List Chars) : Task Unit := do
  if targets.isEmpty then explain
  for target in targets do
    let start := "failed to parse argument: ".toList ++ marked target
    match whole? target with
    | none => Task.fail 1 start
    | some process =>
        if Nat.pow 2 63 ≤ process.natAbs then
          Task.fail 1 (start ++ ": Numerical result out of range".toList)
        match ← send signal process with
        | .ok _ => pure ()
        | .error obstacle =>
            let shown := '(' :: Chars.ofInt process ++ "): ".toList
            Task.complain (shown ++ obstacle.text.toList)
            Task.setStatus 1

def longNames : List (String × Char) :=
  [("list", 'l'), ("table", 'L'), ("signal", 's'), ("help", 'h'), ("version", 'V'), ("queue", 'q')]

/-- What was read: the signal, if it is one, and the processes. -/
abbrev Errand := Option Nat × List Chars

/-- Does what an option asks for.  `value` is what stands in the same word, and `rest` what stands
behind it.  The result says what is left to be read. -/
def heed (letter : Char) (value : Option Chars) (rest : List Chars) (errand : Errand) :
    Task (Errand × List Chars) := do
  let taken : Option (Chars × List Chars) :=
    match value, rest with
    | some value, _ => some (value, rest)
    | none, next :: rest => some (next, rest)
    | none, [] => none
  match letter with
  | 'l' =>
      showNames (taken.map Prod.fst)
      Task.stop 0
  | 'L' =>
      showTable
      Task.stop 0
  | 'h' =>
      Task.say help.toList
      Task.stop 0
  | 'V' =>
      Task.line "kill from procps-ng 4.0.4".toList
      Task.stop 0
  | 's' =>
      match taken with
      | some (name, rest) => return ((number? name, errand.2), rest)
      | none => refuseLetter 's'
  | 'q' =>
      match taken with
      | some (word, rest) =>
          if (whole? word).isNone then
            Task.fail 1
              ("must be an integer value to be passed with the signal.: ".toList ++ marked word)
          return (errand, rest)
      | none => refuseLetter 'q'
  | letter =>
      if !letter.isDigit then refuseLetter letter
      let number := Int.ofNat (letter.toNat - '0'.toNat)
      match ← send errand.1 (-number) with
      | .ok _ => Task.stop 0
      | .error _ => Task.stop 1

def read : Nat -> Errand -> List Chars -> Task Errand
  | 0, errand, _ => return errand
  | bound + 1, errand, words => do
      match words with
      | [] => return errand
      | ['-', '-'] :: rest => return (errand.1, errand.2 ++ rest)
      | ('-' :: '-' :: name) :: rest =>
          let (name, value) : Chars × Option Chars :=
            match Chars.cut? '=' name with
            | some (name, value) => (name, some value)
            | none => (name, none)
          match longNames.filter (fun entry => name.isPrefixOf entry.1.toList) with
          | [(_, letter)] =>
              let (errand, rest) ← heed letter value rest errand
              read bound errand rest
          | _ => refuseLetter '\x00'
      | ('-' :: letter :: letters) :: rest =>
          let value := if letters.isEmpty then none else some letters
          let (errand, rest) ← heed letter value rest errand
          read bound errand rest
      | word :: rest => read bound (errand.1, errand.2 ++ [word]) rest

/-- Takes the first word that names a signal out of some words. -/
def takeSignal : List Chars -> Option Nat × List Chars
  | [] => (none, [])
  | word :: words =>
      let found := if word.head? = some '-' then number? (word.drop 1) else none
      match found with
      | some number => (some number, words)
      | none =>
          let (signal, others) := takeSignal words
          (signal, word :: others)

/-- Sends signals to processes, or shows the names of signals. -/
def run (words : List Chars) : Task Unit := do
  if words.isEmpty then explain
  let (signal, words) := takeSignal words
  let (signal, targets) ← read (words.length + 1) (some (signal.getD 15), []) words
  sendAll signal targets

end Signalling
end Utility
end Machine
end AstLink
