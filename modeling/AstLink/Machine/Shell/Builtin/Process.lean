import AstLink.Machine.Permission
import AstLink.Machine.Shell.Search

namespace AstLink
namespace Machine
namespace Shell
namespace Builtin

/-!
Builtins about processes: signals, jobs and what processes hand on to others.
-/

/-- The number of a signal that is given by its name or its number. -/
def signalOf? (text : Chars) (least : Nat) : Option Nat :=
  if Chars.isNumber text then
    let number := Chars.digitsValue text
    if number ≤ Signal.largest then some number else none
  else
    let names := Signal.names.zipIdx.drop least
    let wanted := text.map Char.toUpper
    (names.find? (fun entry => entry.1.toList.map Char.toUpper == wanted)).map Prod.snd

/-- How `kill` is used. -/
def killUsage : String :=
  "Usage: kill [-s sigspec | -signum | -sigspec] [pid | job]... or\nkill -l [exitstatus]"

/-- Shows the names of signals, or the name of one. -/
def listSignals (operands : List Chars) : Action Nat := do
  match operands with
  | [] =>
      Action.say ['0', '\n']
      for name in Signal.names.drop 1 do
        Action.say (name.toList ++ ['\n'])
      return 0
  | operand :: _ =>
      let number ← Action.number operand
      let signal := if 128 < number then number - 128 else number
      if signal = 0 || Signal.largest < signal then
        Action.fail ("invalid signal number or exit status: ".toList ++ operand)
      Action.say ((Signal.name signal).toList ++ ['\n'])
      return 0

/-- Sends a signal to processes.  A job stands for the group that its first process leads, which is
nobody's group as long as the shell leaves its processes in its own. -/
def sendAll (signal : Nat) (targets : List Chars) : Action Nat := do
  let mut status := 0
  for target in targets do
    let number : Int ←
      match target with
      | '%' :: _ => do
          let job ← Action.jobNamed target
          pure (-(Int.ofNat ((job.processes.head?.map Prod.fst).getD 0)))
      | '-' :: digits => do pure (-(Int.ofNat (← Action.number digits)))
      | digits => do pure (Int.ofNat (← Action.number digits))
    match ← Work.expectDone (.send signal number) with
    | .ok _ => pure ()
    | .error obstacle =>
        Action.warn (obstacle.text.toList ++ ['\n'])
        status := 1
  return status

/-- Sends signals, or shows their names. -/
def kill (words : List Chars) : Action Nat := do
  let rec options (signal : Option Nat) (list : Bool) :
      Nat -> Action (Option Nat × Bool)
    | 0 => return (signal, list)
    | bound + 1 => do
        match ← Action.nextLetter? "ls:" with
        | none => return (signal, list)
        | some 'l' => options signal true bound
        | some _ =>
            let given := (← get).given
            match signalOf? given 1 with
            | some signal => options (some signal) list bound
            | none => Action.fail ("invalid signal number or name: ".toList ++ given)
  let (signal, list, targets) ←
    match words with
    | ('-' :: name) :: rest =>
        match signalOf? name 1 with
        | some signal => pure (some signal, false, rest)
        | none => do
            let (signal, list) ← options none false Work.bound
            pure (signal, list, (← get).operands)
    | words => pure (none, false, words)
  if list && signal.isNone then listSignals targets
  else if words.isEmpty || list || targets.isEmpty then Action.fail killUsage.toList
  else sendAll (signal.getD 15) targets

/-! ## Traps -/

/-- Arranges what is done on signals. -/
def setTraps (action : Option Chars) : List Chars -> Action Nat
  | [] => return 0
  | name :: names => do
      match signalOf? name 0 with
      | none =>
          Action.complain ("trap: ".toList ++ name ++ ": bad trap\n".toList)
          return 1
      | some signal =>
          let action := if action = some ['-'] then none else action
          modify (fun session =>
            let others := session.traps.filter (fun trap => trap.1 != signal)
            { session with
              traps :=
                match action with
                | some action => (signal, action) :: others
                | none => others })
          if signal != 0 then
            let disposition : Disposition :=
              match action with
              | none => .standard
              | some [] => .ignored
              | some _ => .caught
            let _ ← Work.request (.arrange signal disposition)
          setTraps action names

/-- Shows or arranges what is done on signals. -/
def trap : Action Nat := do
  Action.noOptions
  match (← get).operands with
  | [] =>
      let traps := (← get).traps.mergeSort (fun a b => a.1 ≤ b.1)
      for (signal, action) in traps do
        Action.say
          ("trap -- ".toList ++ Action.quoted action ++ ' ' :: (Signal.name signal).toList ++ ['\n'])
      return 0
  | first :: rest =>
      if rest.isEmpty || Chars.isNumber first then setTraps none (first :: rest)
      else setTraps (some first) rest

/-! ## Jobs -/

inductive Listing where
  | states
  | withProcesses
  | processes

/-- Shows a job.  One that is done is forgotten. -/
def showJob (listing : Listing) (number : Nat) : Action Unit := do
  match ← Action.job? number with
  | none => return
  | some job =>
      match listing with
      | .processes =>
          Action.say (Chars.ofNat ((job.processes.head?.map Prod.fst).getD 0) ++ ['\n'])
      | .states => Action.say (Action.jobLine (← get).jobs false job)
      | .withProcesses => Action.say (Action.jobLine (← get).jobs true job)
      match listing with
      | .processes => return
      | _ => if job.isDone then Action.endJob number

def jobs : Action Nat := do
  let rec letters (listing : Listing) : Nat -> Action Listing
    | 0 => return listing
    | bound + 1 => do
        match ← Action.nextLetter? "lp" with
        | some 'l' => letters .withProcesses bound
        | some _ => letters .processes bound
        | none => return listing
  let listing ← letters .states Work.bound
  match (← get).operands with
  | [] =>
      Action.glance
      for job in (← get).jobs do
        showJob listing job.number
  | names =>
      for name in names do
        showJob listing (← Action.jobNamed name).number
  return 0

/-- Waits until all jobs are done; the result says whether a signal came before. -/
def waitForAll : Nat -> Action Bool
  | 0 => return false
  | bound + 1 => do
      let session ← get
      if session.jobs.all Job.isDone then
        modify (fun session =>
          { session with jobs := session.jobs.map (fun job => { job with waited := true }) })
        return false
      else
        match ← Action.waitOnce true none with
        | .something => waitForAll bound
        | .interrupted => if (← get).pending.isEmpty then waitForAll bound else return true
        | .nothing => return false

/-- Waits until a job is done; the result says whether a signal came before. -/
def waitForOne (number : Nat) : Nat -> Action Bool
  | 0 => return false
  | bound + 1 => do
      match ← Action.job? number with
      | none => return false
      | some job =>
          if job.isDone then
            Action.collect none Work.bound
            return false
          else
            match ← Action.waitOnce true (some number) with
            | .something => waitForOne number bound
            | .interrupted => if (← get).pending.isEmpty then waitForOne number bound else return true
            | .nothing => return false

/-- The status of a command that a signal has cut short. -/
def interruptedStatus : Action Nat := return 128 + (← get).pending.headD 0

/-- Waits for jobs, by number or name. -/
def waitForEach (status : Nat) : List Chars -> Action Nat
  | [] => return status
  | name :: names => do
      let job : Option Job ←
        match name with
        | '%' :: _ => do pure (some (← Action.jobNamed name))
        | _ => do
            let process ← Action.number name
            pure ((← get).jobs.find? (fun job =>
              (job.processes.getLast?.map Prod.fst) = some process))
      match job with
      | none => waitForEach status names
      | some job =>
          if ← waitForOne job.number Work.bound then interruptedStatus
          else
            Action.changeJob job.number (fun job => { job with waited := true })
            let ending := ((← Action.job? job.number).map Job.ending).getD (.exit 0)
            waitForEach ending.code names

def wait : Action Nat := do
  Action.noOptions
  match (← get).operands with
  | [] => if ← waitForAll Work.bound then interruptedStatus else return 0
  | names => waitForEach 127 names

/-- Refuses to bring a job to the front or to the background, as there is no terminal. -/
def moveJob : Action Nat := do
  Action.noOptions
  let name := (← get).operands.head?
  let _ ←
    match name with
    | some name => Action.jobNamed name
    | none => Action.jobNamed ['%']
  let shown := name.getD "(null)".toList
  Action.fail ("job ".toList ++ shown ++ " not created under job control".toList)

/-! ## What is handed on -/

/-- Shows or sets which permissions new files do not get. -/
def mask : Action Nat := do
  let inWords := (← Action.nextLetter? "S").isSome
  let old ← Work.expectNumber (.mask none)
  let old := old.toOption.getD 0
  match (← get).operands with
  | [] =>
      Action.say
        ((if inWords then Permission.words (Permission.without 0o777 old)
          else Permission.octal old) ++ ['\n'])
  | text :: _ =>
      let isNumber := (text.head?.map Char.isDigit).getD false
      let new ←
        if isNumber then
          match Permission.ofOctal? text with
          | some mask => pure (mask &&& 0o777)
          | none => Action.notNumber text
        else
          match Permission.maskAfter? (Permission.without 0o777 old) text with
          | some mode => pure (Permission.without 0o777 (mode &&& 0o777))
          | none => Action.fail ("Illegal mode: ".toList ++ text)
      let _ ← Work.request (.mask (some new))
  return 0

/-- Shows how much time was taken, which is none. -/
def times : Action Nat := do
  let line := "0m0.000000s 0m0.000000s\n".toList
  Action.say (line ++ line)
  return 0

/-- Shows a limit.  There are none. -/
def limits : Action Nat := do
  Action.say "unlimited\n".toList
  return 0

/-! ## The working directory -/

/-- A path with the names in it that lead back carried out, seen from a directory. -/
def joinPath (directory path : Chars) : Chars :=
  let start := if path.head? = some '/' then [] else directory
  let double (text : Chars) : Bool := text.take 2 = ['/', '/'] && text[2]? != some '/'
  let root : Chars :=
    if double (if path.head? = some '/' then path else directory) then ['/', '/'] else ['/']
  let names := (Chars.splitOn '/' start ++ Chars.splitOn '/' path).foldl
    (fun names name =>
      if name.isEmpty || name = ['.'] then names
      else if name = ['.', '.'] then names.drop 1
      else name :: names)
    ([] : List Chars)
  root ++ Chars.join ['/'] names.reverse

/-- Makes a directory the working directory, as the script sees it or as it is. -/
def enterDirectory (physical : Bool) (path : Chars) : Action (Except Obstacle Unit) := do
  let session ← get
  let seen := if physical then none else some (joinPath session.working path)
  match ← Work.expectDone (.enter (seen.getD path)) with
  | .error obstacle => return .error obstacle
  | .ok _ =>
      let real ← Work.expectText .working
      let real := real.toOption.getD []
      Action.setMarked "OLDPWD".toList (some session.working) { exported := true }
      let working := seen.getD real
      modify (fun session => { session with working, physical := real })
      Action.setMarked "PWD".toList (some working) { exported := true }
      Search.doubt
      return .ok ()

/-- Whether the last of the letters that say how directories are seen asks for how they are. -/
def isPhysical (physical : Bool) : Nat -> Action Bool
  | 0 => return physical
  | bound + 1 => do
      match ← Action.nextLetter? "LP" with
      | some letter => isPhysical (letter = 'P') bound
      | none => return physical

def firstDirectory? : List (Chars × Bool) -> Action (Option (Chars × Bool))
  | [] => return none
  | (path, shown) :: rest => do
      match ← Work.inspect path true with
      | .ok info =>
          if info.sort = .directory then return some (path, shown) else firstDirectory? rest
      | .error _ => firstDirectory? rest

def changeDirectory : Action Nat := do
  let physical ← isPhysical false Work.bound
  let operand := (← get).operands.head?
  let goal ←
    match operand with
    | none => do pure ((← Action.value? "HOME").getD [])
    | some ['-'] => do pure ((← Action.value? "OLDPWD").getD [])
    | some goal => pure goal
  let back := operand = some ['-']
  let first := (Chars.splitOn '/' goal).headD []
  let isPlain := goal.head? != some '/' && first != ['.'] && first != ['.', '.']
  let wanted := if isPlain && goal.isEmpty then ['.'] else goal
  let found ←
    if isPlain then do
      let places := Chars.splitOn ':' ((← Action.value? "CDPATH").getD [])
      firstDirectory? (places.map (fun place =>
        if place.isEmpty then (wanted, false) else (place ++ '/' :: wanted, true)))
    else pure none
  let (path, shown) := found.getD (wanted, false)
  match ← enterDirectory physical path with
  | .ok _ =>
      if shown || back then Action.say ((← get).working ++ ['\n'])
      return 0
  | .error _ => Action.fail ("can\x27t cd to ".toList ++ wanted)

def showDirectory : Action Nat := do
  let physical ← isPhysical false Work.bound
  let session ← get
  let path ←
    if physical then do pure ((← Work.expectText .working).toOption.getD [])
    else pure session.working
  Action.say (path ++ ['\n'])
  return 0

end Builtin
end Shell
end Machine
end AstLink
