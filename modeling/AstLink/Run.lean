import AstLink.Command
import AstLink.Log.Event
import AstLink.MergeError
import AstLink.Relay

namespace AstLink

/-!
A run of the compiler.  Its standard output and its standard error share one pipe; what comes out
of the pipe is relayed to the wrapper's output; and when the relay has ended, in whatever way, the
compiler is waited for.  How the compiler ended is the result of a run and no failure of it.

A *host* stands for everything outside the wrapper that decides what a run comes to.  It may refuse
to make the pipe or to give a second hold on its end.  It either refuses to start a command or gives
a child: what the child writes, how the pipe hands that on, and what waiting for it comes to.
-/

inductive Descriptor where
  | stdout
  | stderr
  deriving DecidableEq, Repr

/-- A started process, as its parent gets to know it. -/
structure Child where
  process : Nat
  /-- Everything it writes, in order. -/
  writes : List (Descriptor × Bytes)
  /-- The portions in which the pipe hands that on. -/
  chunks : List Bytes
  /-- What waiting for it comes to: the way in which it ended, or a fault. -/
  ending : Except Fault WaitStatus
  /-- The pipe keeps every byte and the order of the bytes, whichever output they were written to.
  -/
  chunks_flatten : chunks.flatten = (writes.map Prod.snd).flatten
  /-- The pipe hands on nothing only at its end, when no writer is left. -/
  chunks_nonempty : ∀ chunk ∈ chunks, chunk ≠ []

/-- What a run has to do with outside the wrapper. -/
structure Host where
  pipe : Except Fault Unit := .ok ()
  /-- What becoming a second holder of its writing end comes to. -/
  clone : Except Fault Unit := .ok ()
  start : Command -> Except Fault Child

/-- Makes the pipe for a child's two outputs, one of which needs the second hold. -/
def Host.connect (host : Host) : Except Fault Unit := do
  host.pipe
  host.clone

namespace Child

def pipeCapacity : Nat := 8192

def reader (child : Child) : Stream.Reader :=
  .buffered pipeCapacity (child.chunks.map Stream.Source.Step.data)

/-- The child that does some writes, each of which the pipe hands on by itself, and that can be
waited for. -/
def ofWrites (process : Nat) (writes : List (Descriptor × Bytes)) (status : WaitStatus) :
    Child where
  process := process
  writes := writes
  chunks := (writes.map Prod.snd).filter (fun bytes => bytes != [])
  ending := .ok status
  chunks_flatten := by
    induction writes with
    | nil => rfl
    | cons write writes ih =>
        by_cases empty : write.2 = []
        · simpa [empty] using ih
        · simpa [List.filter_cons, empty] using ih
  chunks_nonempty := by
    intro chunk member
    simpa using (List.mem_filter.mp member).2

end Child

/-- Starts a command.  One that held a NUL is not handed to the host at all. -/
def Command.start (command : Command) (host : Host) : Except Fault Child :=
  if command.heldNul then .error Fault.nulByte else host.start command

namespace Run

/-- What a run does that can be seen from outside. -/
inductive Action where
  | log (event : Log.Event)
  | start (command : Command)
  | stream (event : Stream.Event)
  | wait (process : Nat)

structure Report where
  actions : List Action
  outcome : Except MergeError WaitStatus

def Report.log (report : Report) : List Log.Event :=
  report.actions.filterMap (fun action =>
    match action with
    | .log event => some event
    | _ => none)

def Report.streams (report : Report) : List Stream.Event :=
  report.actions.filterMap (fun action =>
    match action with
    | .stream event => some event
    | _ => none)

def Report.started (report : Report) : List Command :=
  report.actions.filterMap (fun action =>
    match action with
    | .start command => some command
    | _ => none)

end Run

namespace Invocation

def announcement (invocation : Invocation) : Log.Event :=
  .running invocation.display (Text.shown invocation.target.bytes) invocation.libraries.length
    (Text.shown invocation.placeholder.bytes)

/-- Starts the compiler with both of its outputs connected to one pipe. -/
def launch (host : Host) (invocation : Invocation) : Except MergeError Child := do
  host.connect.mapError MergeError.pipe
  (invocation.command.start host).mapError
    (MergeError.launch (Text.shown invocation.compiler.bytes))

/-- What a run comes to that has started a child, by the end of its relay.  The child is waited for
before anything is made of that. -/
def conclude (child : Child) (relayed : Except Fault Nat) : Except MergeError WaitStatus :=
  match child.ending, relayed with
  | .error fault, _ => .error (.wait fault)
  | .ok _, .error fault => .error (.relay fault)
  | .ok status, .ok _ => .ok status

def run (host : Host) (sink : Stream.Sink) (invocation : Invocation) : Run.Report :=
  let announced := Run.Action.log invocation.announcement
  match invocation.launch host with
  | .error error => { actions := [announced], outcome := .error error }
  | .ok child =>
      let relayed := relay child.reader sink
      let actions :=
        [announced, .start invocation.command, .log (.started child.process)] ++
          relayed.events.map Run.Action.stream ++ [.wait child.process]
      let last : List Run.Action :=
        match child.ending, relayed.outcome with
        | .ok status, .ok lines => [.log (.exited lines status)]
        | _, _ => []
      { actions := actions ++ last, outcome := conclude child relayed.outcome }

end Invocation

end AstLink
