import AstLink.Stream.Line
import AstLink.Stream.Sink

namespace AstLink

/-!
The relay.  It copies a stream to a writer line by line and flushes after every line, so that a
line is visible as soon as it is complete, whatever the streams' buffers are.

It ends at the end of the stream with the number of lines forwarded, or with the first fault of
either side.  A reading that was only broken off is started afresh.
-/

namespace Relay

/-- A run of the relay: all calls of both streams, in order, and how it ended. -/
structure Report where
  events : List Stream.Event
  outcome : Except Fault Nat

/-- The same with calls that were made before. -/
def Report.after (report : Report) (events : List Stream.Event) : Report :=
  { report with events := events ++ report.events }

/-- Where the relay stands at the top of its loop, `count` lines having been forwarded. -/
structure State where
  feed : Stream.Feed
  sink : Stream.Sink
  count : Nat

inductive Next where
  | onward (state : State)
  | ended (outcome : Except Fault Nat)

/-- A turn of the loop: the calls made in it, and what comes after it. -/
structure Turn where
  events : List Stream.Event
  next : Next

def State.turn (state : State) : Turn :=
  let taken := state.feed.next
  let read := taken.1
  let feed := taken.2
  match read.fault with
  | some fault =>
      if fault.isInterrupted then ⟨read.events, .onward { state with feed }⟩
      else ⟨read.events, .ended (.error fault)⟩
  | none =>
      if read.line.isEmpty then ⟨read.events, .ended (.ok state.count)⟩
      else
        let handed := state.sink.forward read.line
        let events := read.events ++ handed.events
        match handed.outcome with
        | .error fault => ⟨events, .ended (.error fault)⟩
        | .ok _ => ⟨events, .onward ⟨feed, handed.sink, state.count + 1⟩⟩

/-- After a turn that is not the last, less is left to be read. -/
theorem State.left_turn_lt {state next : State} (onward : state.turn.next = .onward next) :
    next.feed.left < state.feed.left := by
  unfold turn at onward
  cases broken : state.feed.next.1.fault with
  | some fault =>
      simp only [broken] at onward
      split at onward
      · next interrupted =>
          cases onward
          have goesOn : state.feed.next.1.goesOn = true := by
            simpa [Stream.LineRead.goesOn, broken] using interrupted
          exact state.feed.left_next_lt goesOn
      · cases onward
  | none =>
      simp only [broken] at onward
      split at onward
      · cases onward
      · next held =>
          have goesOn : state.feed.next.1.goesOn = true := by
            simpa [Stream.LineRead.goesOn, broken] using held
          split at onward
          · cases onward
          · cases onward
            exact state.feed.left_next_lt goesOn

def run (state : State) : Report :=
  match _after : state.turn.next with
  | .ended outcome => ⟨state.turn.events, outcome⟩
  | .onward next => (run next).after state.turn.events
termination_by state.feed.left
decreasing_by exact state.left_turn_lt _after

end Relay

/-- Copies a stream to a writer. -/
def relay (reader : Stream.Reader) (sink : Stream.Sink) : Relay.Report :=
  Relay.run ⟨reader.feed, sink, 0⟩

end AstLink
