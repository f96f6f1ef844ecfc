import AstLink.Machine.Shell.Descriptor
import AstLink.Machine.Shell.Job
import AstLink.Machine.Shell.Reader

namespace AstLink
namespace Machine
namespace Shell

/-!
Running scripts: reading a text command by command and carrying each out, what a script has arranged
for signals, the end of a shell, and shells that are started by a shell.
-/

/-- In what way commands are carried out. -/
structure Manner where
  /-- Whether something depends on how the command ends, so that its failure is nothing unusual. -/
  tested : Bool := false
  /-- Whether the process ends with the command. -/
  last : Bool := false
  deriving DecidableEq, Repr

/-- The way in which commands are carried out.  The result is the status. -/
structure Engine where
  evaluate : Option Statement -> Manner -> Action Nat

namespace Engine

def next (cursor : Cursor) : Action (Bool × Option Statement × Cursor) := do
  let session ← get
  let cursor := { cursor with aliases := session.aliases, documents := session.documents }
  let before := cursor.rest
  let echo (after : Cursor) : Action Unit := do
    if ← Action.isOn "verbose" then
      Action.complain (before.take (before.length - after.rest.length))
  match Reader.next.run cursor with
  | .ok ((atEnd, body), cursor) =>
      modify (fun session => { session with documents := cursor.documents })
      echo cursor
      return (atEnd, body, cursor)
  | .error (failure, cursor) =>
      modify (fun session => { session with line := failure.line })
      echo cursor
      Action.fail ("Syntax error: ".toList ++ failure.text.toList)

/-- Reads and carries out commands until the end or until what follows is to be skipped.  The result
is the status of the last command. -/
def runFrom (engine : Engine) (tested : Bool) (status : Nat) : Nat -> Cursor -> Action Nat
  | 0, _ => return status
  | bound + 1, cursor => do
      let (atEnd, body, cursor) ← next cursor
      if atEnd then return status
      let result ← engine.evaluate body { tested }
      let status := if body.isSome then result else status
      if (← get).skip != .none then return status
      else runFrom engine tested status bound cursor

def runText (engine : Engine) (text : Chars) (tested : Bool) : Action Nat :=
  runFrom engine tested 0 Work.bound { rest := text, line := 1 }

/-- Carries out a file, which may return before its end. -/
def runFile (engine : Engine) (text : Chars) : Action Nat := do
  let status ← engine.runText text false
  modify (fun session =>
    match session.skip with
    | .return | .returnAsIs => { session with skip := .none }
    | _ => session)
  return status

/-- Carries out what is arranged for signals that came. -/
def runTraps (engine : Engine) (status : Nat) : List Nat -> Action Unit
  | [] => return
  | signal :: signals => do
      let session ← get
      if session.skip != .none then
        set { session with pending := signal :: signals }
      else
        match session.traps.lookup signal with
        | some action =>
            let _ ← engine.runText action false
            modify (fun session =>
              if session.skip = .return then session else { session with status })
            runTraps engine status signals
        | none => runTraps engine status signals

/-- Sees to signals. -/
def heed (engine : Engine) : Action Unit := do
  Action.heedSignals
  let session ← get
  if session.pending.isEmpty then return
  let before := session.keptStatus
  let status := before.getD session.status
  set { session with keptStatus := some status, pending := [] }
  engine.runTraps status (session.pending.eraseDups.mergeSort (fun a b => a ≤ b))
  modify (fun session => { session with keptStatus := before })

/-! ## The end of a shell -/

/-- Leaves everything that the shell is in the middle of, and settles the status with which it ends
after it has broken off for a reason. -/
def settle (reason : Option Break) : Action Unit := do
  modify (fun session =>
    let status :=
      match session.keptStatus with
      | some status =>
          if reason = some .exit || session.skip = .returnAsIs then status else session.status
      | none => session.status
    { session with status, keptStatus := none, skip := .none, loops := 0, inTrace := false })
  Action.endDownTo 0 false Work.bound

/-- Ends the shell, for a reason if it broke off. -/
def leave {α : Type} (engine : Engine) (reason : Option Break) : Action α := do
  modify (fun session => { session with keptStatus := some session.status })
  let session ← get
  let reason ←
    match session.traps.lookup 0 with
    | none => pure reason
    | some action => do
        set
          { session with
            traps := session.traps.filter (fun trap => trap.1 != 0), skip := .none }
        match ← Work.outcome (engine.runText action false) with
        | .ok _ => do
            modify (fun session => { session with skip := .returnAsIs })
            pure reason
        | .error reason => pure (some reason)
  settle reason
  Action.flush
  Work.finish (.exit (← get).status)

/-- Does all that a shell is there for, and ends it. -/
def live {α : Type} (engine : Engine) (body : Action Unit) : Action α := do
  match ← Work.outcome body with
  | .ok _ => engine.leave none
  | .error reason => do
      settle (some reason)
      engine.leave (some reason)

/-! ## Shells that are started by a shell -/

/-- What a shell changes in itself when it is started by another. -/
def enter : Action Unit := do
  let session ← get
  let (kept, gone) := session.traps.partition (fun trap => trap.2.isEmpty)
  set
    { session with
      traps := kept
      jobs := []
      pending := []
      saved := []
      depth := session.depth + 1 }
  for (signal, _) in gone do
    if signal != 0 then
      let _ ← Work.request (.arrange signal .standard)

def start (engine : Engine) (job : Nat) (body : Action Unit) : Action Unit := do
  let child : Action Unit := engine.live (do
    enter
    body)
  match ← Work.fork child (fun _ _ => .exit 0) with
  | .ok process => Action.addProcess job process
  | .error _ =>
      Action.endJob job
      Action.fail "Cannot fork".toList

/-- What a shell in the background changes: it cannot be interrupted from the terminal, and there is
nothing for it to read. -/
def hide (alone : Bool) : Action Unit := do
  let _ ← Work.request (.arrange 2 .ignored)
  let _ ← Work.request (.arrange 3 .ignored)
  if alone then
    Work.close 0
    let _ ← Work.openFile "/dev/null".toList { reads := true }

/-- What commands write, without the line ends at its end. -/
def output (engine : Engine) (body : Option Statement) : Action Chars := do
  match body with
  | none => return []
  | some body =>
      match ← Work.request .pipe with
      | .pair source sink =>
          let job ← Action.beginJob
          engine.start job (do
            Work.close source
            if sink != 1 then
              let _ ← Work.request (.duplicate sink 1)
              Work.close sink
            let _ ← engine.evaluate (some body) { last := true })
          Work.close sink
          let text ← Work.readAll source
          Work.close source
          let innerStatus ← Action.waitForJob job
          modify (fun session => { session with innerStatus })
          let text := (text.toOption.getD []).filter (fun char => char != '\x00')
          return Chars.trimEnd (fun char => char = '\n') text
      | _ => Action.fail "Pipe call failed".toList

end Engine
end Shell
end Machine
end AstLink
