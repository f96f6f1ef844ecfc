import AstLink.Machine.Permission
import AstLink.Machine.Real
import AstLink.Machine.Signal
import AstLink.Machine.Utility.Console

namespace AstLink
namespace Machine
namespace Utility

/-!
Programs that start other programs, with another environment or for some time, and those that show
the environment or wait.
-/

/-! ## Starting a program -/

/-- Puts a program in the place of this one.  A file that is no program is a script for the shell.
The result is the obstacle. -/
def become (path : Chars) (words : List Chars) : Task Obstacle := do
  let environment := (← get).environment
  match ← Work.request (.execute path words environment) with
  | .failed .noProgram =>
      let shell := "/bin/sh".toList
      match ← Work.request (.execute shell (shell :: path :: words.drop 1) environment) with
      | .failed obstacle => return obstacle
      | _ => return .noProgram
  | .failed obstacle => return obstacle
  | _ => return .noProgram

/-- Tries paths one after another.  `refused` says that one of them was refused. -/
def becomeAny (words : List Chars) (refused : Bool) : List Chars -> Task Obstacle
  | [] => return if refused then .noAccess else .noEntry
  | path :: paths => do
      match ← become path words with
      | .noAccess => becomeAny words true paths
      | .noEntry | .noDirectory => becomeAny words refused paths
      | obstacle => return obstacle

/-- Puts the program that a command names in the place of this one, or gives the obstacle. -/
def execute (words : List Chars) : Task Obstacle := do
  let name := words.headD []
  if name.isEmpty then return .noEntry
  if name.contains '/' then become name words
  else
    let path := ((← get).environment.lookup "PATH".toList).getD "/bin:/usr/bin".toList
    becomeAny words false ((Chars.splitOn ':' path).map (fun directory =>
      if directory.isEmpty then name else directory ++ '/' :: name))

/-- The status that stands for an obstacle to starting a program. -/
def launchStatus (obstacle : Obstacle) : Nat := if obstacle = .noEntry then 127 else 126

def waitForEnd (process : Nat) : Nat -> Task Ending
  | 0 => return .exit 0
  | bound + 1 => do
      match ← Work.request (.wait (some process) true) with
      | .ended _ ending => return ending
      | .failed .interrupted => waitForEnd process bound
      | _ => return .exit 0

/-! ## Environments -/

def setVariable (name value : Chars) :
    List (Chars × Chars) -> List (Chars × Chars)
  | [] => [(name, value)]
  | entry :: rest =>
      if entry.1 = name then (name, value) :: rest else entry :: setVariable name value rest

/-- Why a line of words cannot be split. -/
inductive SplitFailure where
  | noQuote
  | backslashAtEnd
  | unknown (char : Char)
  | notBraced (rest : Chars)

def SplitFailure.message : SplitFailure -> Chars
  | .noQuote => "no terminating quote in -S string".toList
  | .backslashAtEnd => "invalid backslash at end of string in -S".toList
  | .unknown char => "invalid sequence \x27\\".toList ++ char :: "\x27 in -S".toList
  | .notBraced rest => "only $\x7bVARNAME\x7d expansion is supported, error at: ".toList ++ rest

/-- A line that is split: the words done, latest first, and the word at hand, reversed. -/
structure Splitting where
  done : List Chars := []
  word : Option Chars := none
  quote : Option Char := none

/-- Adds characters to the word at hand. -/
def Splitting.add (splitting : Splitting) (text : Chars) : Splitting :=
  { splitting with word := some (text.reverse ++ splitting.word.getD []) }

/-- Ends the word at hand. -/
def Splitting.close (splitting : Splitting) : Splitting :=
  match splitting.word with
  | none => splitting
  | some word => { splitting with done := word.reverse :: splitting.done, word := none }

def splitEscape? : Char -> Option Char
  | 'f' => some '\x0c'
  | 'n' => some '\n'
  | 'r' => some '\r'
  | 't' => some '\t'
  | 'v' => some '\x0b'
  | char => if "\"#$\x27\\".toList.contains char then some char else none

/-- Splits a line into words.  `skipped` characters were dealt with before. -/
def splitLine (environment : List (Chars × Chars)) :
    Nat -> Splitting -> Chars -> Except SplitFailure (List Chars)
  | _, splitting, [] =>
      if splitting.quote.isSome then .error .noQuote else .ok splitting.close.done.reverse
  | skipped + 1, splitting, _ :: rest => splitLine environment skipped splitting rest
  | 0, splitting, char :: rest =>
      let quoted := splitting.quote.isSome
      if splitting.quote = some '\x27' then
        match char, rest with
        | '\x27', _ => splitLine environment 0 { splitting with quote := none } rest
        | '\\', next :: _ =>
            if next = '\x27' || next = '\\' then
              splitLine environment 1 (splitting.add [next]) rest
            else splitLine environment 0 (splitting.add [char]) rest
        | _, _ => splitLine environment 0 (splitting.add [char]) rest
      else
        match char with
        | '\x27' =>
            if quoted then splitLine environment 0 (splitting.add [char]) rest
            else splitLine environment 0 { splitting.add [] with quote := some char } rest
        | '"' =>
            splitLine environment 0
              { splitting.add [] with quote := if quoted then none else some char } rest
        | '\\' =>
            match rest with
            | [] => .error .backslashAtEnd
            | '_' :: _ =>
                splitLine environment 1
                  (if quoted then splitting.add [' '] else splitting.close) rest
            | 'c' :: _ =>
                if quoted then .error (.unknown 'c') else .ok splitting.close.done.reverse
            | next :: _ =>
                match splitEscape? next with
                | some char => splitLine environment 1 (splitting.add [char]) rest
                | none => .error (.unknown next)
        | '$' =>
            match rest with
            | '\x7b' :: after =>
                let name := after.takeWhile (fun char => char.isAlphanum || char = '_')
                if name.isEmpty || (name.headD ' ').isDigit ||
                    (after.drop name.length).head? != some '\x7d' then
                  .error (.notBraced (char :: rest))
                else
                  let splitting :=
                    match environment.lookup name with
                    | some value => splitting.add value
                    | none => splitting
                  splitLine environment (name.length + 2) splitting rest
            | _ => .error (.notBraced (char :: rest))
        | '#' =>
            if quoted || splitting.word.isSome then
              splitLine environment 0 (splitting.add [char]) rest
            else .ok splitting.done.reverse
        | _ =>
            if Chars.isSpace char && !quoted then splitLine environment 0 splitting.close rest
            else splitLine environment 0 (splitting.add [char]) rest

def withSplit : Nat -> List Chars -> Task (List Chars)
  | 0, words => return words
  | bound + 1, words => do
      let isOption (word : Chars) : Bool := word.head? = some '-' && word != ['-', '-']
      let before := words.takeWhile (fun word =>
        isOption word && !"-S".toList.isPrefixOf word && !"-vS".toList.isPrefixOf word &&
          !"-iS".toList.isPrefixOf word && !"--split-string=".toList.isPrefixOf word)
      match words.drop before.length with
      | word :: rest =>
          if !isOption word then return words
          let (kept, line?) : List Chars × Option Chars :=
            if "--split-string=".toList.isPrefixOf word then ([], some (word.drop 15))
            else if "-S".toList.isPrefixOf word then ([], some (word.drop 2))
            else ([word.take 2], some (word.drop 3))
          let line := line?.getD []
          let (line, rest) ←
            if !line.isEmpty then pure (line, rest)
            else
              match rest with
              | next :: rest => pure (next, rest)
              | [] => Task.misuse 125 "option requires an argument -- \x27S\x27".toList
          match splitLine (← get).environment 0 {} line with
          | .ok pieces => withSplit bound (before ++ kept ++ pieces ++ rest)
          | .error failure => Task.fail 125 failure.message
      | [] => return words

def runInEnvironment (words : List Chars) : Task Unit := do
  let flags :=
    [flag 'i' ["ignore-environment"], given 'u' ["unset"], flag '0' ["null"],
      given 'C' ["chdir"], flag 'v' ["debug"], given 'S' ["split-string"]]
  let words ← withSplit (words.length + 1) words
  let arguments ← readArguments { flags, status := 125, mixed := false } words
  let (bare, operands) :=
    match arguments.operands with
    | ['-'] :: operands => (true, operands)
    | operands => (false, operands)
  if bare || arguments.has 'i' then modify (fun console => { console with environment := [] })
  for option in arguments.options do
    if option.1 = 'u' then
      let name := option.2.getD []
      if name.isEmpty || name.contains '=' then
        Task.fail 125 ("cannot unset ".toList ++ marked name ++ ": Invalid argument".toList)
      modify (fun console =>
        { console with
          environment := console.environment.filter (fun entry => entry.1 != name) })
  let settings := operands.takeWhile (fun word => word.contains '=')
  for setting in settings do
    let (name, value) := (Chars.cut? '=' setting).getD (setting, [])
    modify (fun console =>
      { console with environment := setVariable name value console.environment })
  let command := operands.drop settings.length
  if !command.isEmpty && arguments.has '0' then
    Task.misuse 125 "cannot specify --null (-0) with command".toList
  match arguments.value? 'C' with
  | none => pure ()
  | some directory =>
      if command.isEmpty then Task.misuse 125 "must specify command with --chdir (-C)".toList
      match ← Work.expectDone (.enter directory) with
      | .ok _ => pure ()
      | .error obstacle =>
          Task.fail 125
            ("cannot change directory to ".toList ++ marked directory ++ ": ".toList ++
              obstacle.text.toList)
  if command.isEmpty then
    let ending := if arguments.has '0' then '\x00' else '\n'
    for (name, value) in (← get).environment do
      Task.say (name ++ '=' :: value ++ [ending])
  else
    if arguments.has 'v' then
      Task.complainText ("executing: ".toList ++ command.headD [] ++ ['\n'])
      for (word, place) in command.zipIdx do
        Task.complainText
          ("   arg[".toList ++ Chars.ofNat place ++ "]= ".toList ++ marked word ++ ['\n'])
    let obstacle ← execute command
    let name := command.headD []
    Task.complain (marked name ++ ": ".toList ++ obstacle.text.toList)
    if obstacle = .noEntry && name.any Chars.isSpace then
      Task.complain "use -[v]S to pass options in shebang lines".toList
    Task.stop (launchStatus obstacle)

def showEnvironment (words : List Chars) : Task Unit := do
  let flags := [flag '0' ["null"], flag 'i' [], given 'u' []]
  let check (_ : List (Char × Option Chars)) (letter : Char) (_ : Option Chars) : Task Unit := do
    if letter != '0' then
      Task.pointToHelp
      Task.stop 2
  let arguments ← readArguments { flags, status := 2, mixed := false, check } words
  let ending := if arguments.has '0' then '\x00' else '\n'
  let environment := (← get).environment
  if arguments.operands.isEmpty then
    for (name, value) in environment do
      Task.say (name ++ '=' :: value ++ [ending])
  for name in arguments.operands do
    match environment.lookup name with
    | some value => Task.say (value ++ [ending])
    | none => Task.setStatus 1

/-! ## Time -/

/-- How many millionths of a second an interval lasts, which may have a unit behind it. -/
def interval? (text : Chars) : Option Nat :=
  let scanned := Real.scan Real.extended text
  let unit : Option Nat :=
    match scanned.rest with
    | [] | ['s'] => some 1
    | ['m'] => some 60
    | ['h'] => some 3600
    | ['d'] => some 86400
    | _ => none
  match unit, scanned.value with
  | some unit, ⟨false, .finite numerator denominator⟩ =>
      if scanned.found then some ((numerator * unit * 1000000 + denominator - 1) / denominator)
      else none
  | some _, ⟨false, .infinite⟩ => if scanned.found then some (Nat.pow 10 18) else none
  | _, _ => none

/-- Waits for some time. -/
def sleep (words : List Chars) : Task Unit := do
  let arguments ← readArguments { flags := [] } words
  if arguments.operands.isEmpty then Task.misuse 1 "missing operand".toList
  let mut total := 0
  let mut valid := true
  for operand in arguments.operands do
    match interval? operand with
    | some micros => total := total + micros
    | none =>
        Task.complain ("invalid time interval ".toList ++ marked operand)
        valid := false
  if !valid then
    Task.pointToHelp
    Task.stop 1
  let _ ← Work.request (.sleep total)

/-! ## Signals -/

/-- The number of a signal that is given by its number or its name, with or without `SIG`. -/
def signal? (text : Chars) : Option Nat :=
  if Chars.isNumber text then
    let number := Chars.digitsValue text
    if number ≤ Signal.largest then some number else none
  else
    let name := text.map Char.toUpper
    let name := if "SIG".toList.isPrefixOf name then name.drop 3 else name
    let names := Signal.names.zipIdx
    (names.find? (fun entry => entry.1.toList == name)).map Prod.snd

/-! ## Limited time -/

def endAs {α : Type} : Ending -> Task α
  | .exit code => Task.stop code
  | .signal signal => do
      let _ ← Work.request (.arrange signal.number .standard)
      Work.finish (.signal signal)

def startTimer (micros signal process : Nat) : Task Nat := do
  let timer : Task Unit := do
    let _ ← Work.request (.sleep micros)
    let _ ← Work.request (.send signal process)
  match ← Work.fork timer (fun _ _ => .exit 0) with
  | .ok timer => return timer
  | .error _ => return 0

def stopTimer (timer : Nat) : Task Unit := do
  let _ ← Work.request (.send 9 timer)
  let _ ← Work.request (.wait (some timer) true)

def present : Task Nat := do
  match ← Work.request .clock with
  | .number micros => return micros
  | _ => return 0

def runForTime (words : List Chars) : Task Unit := do
  let flags :=
    [given 's' ["signal"], given 'k' ["kill-after"], flag 'v' ["verbose"],
      flag 'p' ["preserve-status"], flag 'f' ["foreground"]]
  let arguments ← readArguments { flags, status := 125, mixed := false } words
  let read (text : Chars) : Task Nat := do
    match interval? text with
    | some micros => return micros
    | none => Task.misuse 125 ("invalid time interval ".toList ++ marked text)
  let after ← (arguments.value? 'k').mapM read
  let signal ←
    match arguments.value? 's' with
    | none => pure 15
    | some text =>
        match signal? text with
        | some signal => pure signal
        | none => Task.misuse 125 (marked text ++ ": invalid signal".toList)
  match arguments.operands with
  | duration :: name :: rest => do
      let micros ← read duration
      let command : Task Unit := do
        let obstacle ← execute (name :: rest)
        Task.complain
          ("failed to run command ".toList ++ marked name ++ ": ".toList ++ obstacle.text.toList)
        Task.stop (launchStatus obstacle)
      let status (result : Except Nat Unit) : Ending :=
        match result with
        | .error status => .exit status
        | .ok _ => .exit 0
      match ← Work.fork command (fun result _ => status result) with
      | .error obstacle =>
          Task.fail 125 ("fork system call failed: ".toList ++ obstacle.text.toList)
      | .ok process =>
          if micros = 0 then endAs (← waitForEnd process Work.bound)
          let begun ← present
          let timer ← startTimer micros signal process
          let second ← after.mapM (fun more => startTimer (micros + more) 9 process)
          let ending ← waitForEnd process Work.bound
          let taken := (← present) - begun
          stopTimer timer
          second.forM stopTimer
          if taken < micros then endAs ending
          if arguments.has 'v' then
            Task.complain
              ("sending signal ".toList ++ (Signal.name signal).toList ++ " to command ".toList ++
                marked name)
          if ending = .signal .kill then endAs ending
          Task.stop (if arguments.has 'p' then ending.code else 124)
  | _ => do
      Task.pointToHelp
      Task.stop 125

end Utility
end Machine
end AstLink
