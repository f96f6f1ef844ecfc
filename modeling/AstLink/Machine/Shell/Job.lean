import AstLink.Machine.Shell.Session

namespace AstLink
namespace Machine
namespace Shell
namespace Action

/-!
Jobs: the processes that a shell starts, and how it waits for them.

A job keeps its number until the script has been told of its end, and a number that is free again is
given to the next job.
-/

/-- The number for another job: the first that no job has, or only one that the script has waited
for to its end. -/
def freeNumber (jobs : List Job) : Nat :=
  let numbers := (List.range (jobs.length + 1)).map (· + 1)
  (numbers.find? (fun number =>
    match jobs.find? (fun job => job.number = number) with
    | some job => job.isDone && job.waited
    | none => true)).getD (jobs.length + 1)

def beginJob : Action Nat :=
  modifyGet (fun session =>
    let number := freeNumber session.jobs
    let others := session.jobs.filter (fun job => job.number != number)
    (number, { session with jobs := { number, processes := [] } :: others }))

def endJob (number : Nat) : Action Unit :=
  modify (fun session =>
    { session with jobs := session.jobs.filter (fun job => job.number != number) })

def changeJob (number : Nat) (change : Job -> Job) : Action Unit :=
  modify (fun session =>
    { session with
      jobs := session.jobs.map (fun job => if job.number = number then change job else job) })

def job? (number : Nat) : Action (Option Job) :=
  return (← get).jobs.find? (fun job => job.number = number)

/-- Makes a process part of a job. -/
def addProcess (number process : Nat) : Action Unit :=
  changeJob number (fun job => { job with processes := job.processes ++ [(process, none)] })

def noteEnd (process : Nat) (ending : Ending) : Action (Option Nat) :=
  modifyGet (fun session =>
    let owner := session.jobs.find? (fun job =>
      !job.isDone && job.processes.any (fun entry => entry.1 = process))
    match owner with
    | none => (none, session)
    | some owner =>
        let processes := owner.processes.map (fun entry =>
          if entry.1 = process then (process, some ending) else entry)
        (some owner.number,
          { session with
            jobs := session.jobs.map (fun job =>
              if job.number = owner.number then { job with processes } else job) }))

/-- What is said at once about the end of a process that the shell waited for. -/
def announce (ending : Ending) : Action Unit := do
  match ending with
  | .signal signal =>
      match Signal.notice? signal.number with
      | some notice => complain (notice.toList ++ ['\n'])
      | none => return
  | .exit _ => return

/-- Takes note of the signals that came. -/
def heedSignals : Action Unit := do
  if (← get).traps.any (fun trap => trap.1 != 0) then
    match ← Work.request .caught with
    | .signals signals =>
        modify (fun session => { session with pending := session.pending ++ signals })
    | _ => return

inductive Waited where
  | something
  | interrupted
  | nothing

/-- Waits for the end of any process, or only asks whether one has ended.  The end is announced if
it belongs to the job that is waited for. -/
def waitOnce (patient : Bool) (wanted : Option Nat) : Action Waited := do
  match ← Work.request (.wait none patient) with
  | .ended process ending =>
      let owner ← noteEnd process ending
      if owner.isSome && owner = wanted then announce ending
      return .something
  | .failed .interrupted =>
      heedSignals
      return .interrupted
  | _ => return .nothing

/-- Notes the ends of all processes that have ended by now. -/
def collect (wanted : Option Nat) : Nat -> Action Unit
  | 0 => return
  | bound + 1 => do
      match ← waitOnce false wanted with
      | .something => collect wanted bound
      | _ => return

/-- Notes the ends of processes, if there may be any that are not noted. -/
def glance : Action Unit := do
  if (← get).jobs.any (fun job => !job.isDone) then collect none Work.bound

def waitUntilDone (number : Nat) : Nat -> Action Unit
  | 0 => return
  | bound + 1 => do
      match ← job? number with
      | none => return
      | some job =>
          if job.isDone then collect (some number) Work.bound
          else
            match ← waitOnce true (some number) with
            | .nothing => return
            | _ => waitUntilDone number bound

def waitForJob (number : Nat) : Action Nat := do
  waitUntilDone number Work.bound
  match ← job? number with
  | none => return 0
  | some job =>
      endJob number
      return job.ending.code

def jobNamed (text : Chars) : Action Job := do
  let jobs := (← get).jobs
  let current (missing : String) (found : Option Job) : Action Job :=
    match found with
    | some job => return job
    | none => fail missing.toList
  let missing := "No such job: ".toList ++ text
  match text with
  | ['%'] | ['%', '+'] | ['%', '%'] => current "No current job" jobs.head?
  | ['%', '-'] => current "No previous job" jobs[1]?
  | '%' :: name =>
      let numbered :=
        if Chars.isNumber name then
          jobs.find? (fun job => job.number = Chars.digitsValue name)
        else none
      match numbered with
      | some job => return job
      | none => fail missing
  | _ => fail missing

/-- How many columns the state of a job takes in a list. -/
def stateWidth : Nat := 33

def jobLine (jobs : List Job) (withProcess : Bool) (job : Job) : Chars :=
  let sign :=
    if (jobs.head?.map Job.number) = some job.number then '+'
    else if (jobs[1]?.map Job.number) = some job.number then '-'
    else ' '
  let start := '[' :: Chars.ofNat job.number ++ [']', ' ', sign, ' ']
  let process := Chars.ofNat ((job.processes.head?.map Prod.fst).getD 0) ++ [' ']
  let start := if withProcess then start ++ process else start
  let state :=
    if !job.isDone then "Running".toList
    else
      match job.ending with
      | .exit 0 => "Done".toList
      | .exit code => "Done(".toList ++ Chars.ofNat code ++ [')']
      | .signal signal => (Signal.description signal.number).toList
  let line := start ++ state
  line ++ List.replicate (max 1 (stateWidth - line.length)) ' ' ++
    (if withProcess then [] else (job.processes.drop 1).flatMap (fun _ => " | ".toList)) ++ ['\n']

end Action
end Shell
end Machine
end AstLink
