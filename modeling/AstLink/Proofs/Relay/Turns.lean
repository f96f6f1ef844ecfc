import AstLink.Proofs.Stream.Reading
import AstLink.Relay

namespace AstLink
namespace Relay

/-!
The relay turn by turn.

A turn makes one reading and may forward its line.  There are five ways that it can go, and three of
them end the relay (`Forwards`).  What a relay does is told by its readings and its writer alone,
one turn for each reading up to the last (`run_forwards`), so whatever is to be said about relays is
said for these five ways, and needs nothing more of the loop.
-/

open AstLink.Stream

/-- What forwarding some readings comes to, `count` lines having been forwarded before.  There is
always a last reading: nothing is ever made of the readings having run out. -/
inductive Forwards : Nat -> Sink -> List LineRead -> Report -> Prop
  /-- The reading is broken off, and another one is made. -/
  | interrupted {count : Nat} {sink : Sink} {read : LineRead} {reads : List LineRead}
      {fault : Fault} {report : Report} (broken : read.fault = some fault)
      (interrupted : fault.isInterrupted = true) (later : Forwards count sink reads report) :
      Forwards count sink (read :: reads) (report.after read.events)
  /-- The reading fails for good. -/
  | unread {count : Nat} {sink : Sink} {read : LineRead} {reads : List LineRead} {fault : Fault}
      (broken : read.fault = some fault) (final : fault.isInterrupted = false) :
      Forwards count sink (read :: reads) ⟨read.events, .error fault⟩
  /-- The stream is at its end. -/
  | ended {count : Nat} {sink : Sink} {read : LineRead} {reads : List LineRead}
      (whole : read.fault = none) (empty : read.line = []) :
      Forwards count sink (read :: reads) ⟨read.events, .ok count⟩
  /-- The line is not taken, or not made visible. -/
  | unforwarded {count : Nat} {sink : Sink} {read : LineRead} {reads : List LineRead}
      {fault : Fault} (whole : read.fault = none) (held : read.line ≠ [])
      (failed : (sink.forward read.line).outcome = .error fault) :
      Forwards count sink (read :: reads)
        ⟨read.events ++ (sink.forward read.line).events, .error fault⟩
  /-- The line is forwarded, and another reading is made. -/
  | forwarded {count : Nat} {sink : Sink} {read : LineRead} {reads : List LineRead}
      {report : Report} (whole : read.fault = none) (held : read.line ≠ [])
      (taken : (sink.forward read.line).outcome = .ok ())
      (later : Forwards (count + 1) (sink.forward read.line).sink reads report) :
      Forwards count sink (read :: reads)
        (report.after (read.events ++ (sink.forward read.line).events))

/-! ## One turn -/

namespace State

variable {state : State} {fault : Fault}

theorem turn_of_interrupted (broken : state.feed.next.1.fault = some fault)
    (interrupted : fault.isInterrupted = true) :
    state.turn =
      ⟨state.feed.next.1.events, .onward { state with feed := state.feed.next.2 }⟩ := by
  simp only [turn, broken, interrupted, if_true]

theorem turn_of_unread (broken : state.feed.next.1.fault = some fault)
    (final : fault.isInterrupted = false) :
    state.turn = ⟨state.feed.next.1.events, .ended (.error fault)⟩ := by
  simp [turn, broken, final]

theorem turn_of_end (whole : state.feed.next.1.fault = none)
    (empty : state.feed.next.1.line = []) :
    state.turn = ⟨state.feed.next.1.events, .ended (.ok state.count)⟩ := by
  simp [turn, whole, empty]

variable (whole : state.feed.next.1.fault = none) (held : state.feed.next.1.line ≠ [])

include whole held in
theorem turn_of_unforwarded
    (failed : (state.sink.forward state.feed.next.1.line).outcome = .error fault) :
    state.turn = ⟨state.feed.next.1.events ++ (state.sink.forward state.feed.next.1.line).events,
      .ended (.error fault)⟩ := by
  simp [turn, whole, held, failed]

include whole held in
theorem turn_of_forwarded
    (taken : (state.sink.forward state.feed.next.1.line).outcome = .ok ()) :
    state.turn = ⟨state.feed.next.1.events ++ (state.sink.forward state.feed.next.1.line).events,
      .onward ⟨state.feed.next.2, (state.sink.forward state.feed.next.1.line).sink,
        state.count + 1⟩⟩ := by
  simp [turn, whole, held, taken]

end State

/-! ## The loop -/

theorem run_of_ended {state : State} {outcome : Except Fault Nat}
    (ended : state.turn.next = .ended outcome) : run state = ⟨state.turn.events, outcome⟩ := by
  rw [run]
  split
  · next other after =>
      rw [after] at ended
      cases ended
      rfl
  · next other after =>
      rw [after] at ended
      cases ended

theorem run_of_onward {state next : State} (onward : state.turn.next = .onward next) :
    run state = (run next).after state.turn.events := by
  rw [run]
  split
  · next other after =>
      rw [after] at onward
      cases onward
  · next other after =>
      rw [after] at onward
      cases onward
      rfl

/-- A run of the loop forwards the readings that are still to be made. -/
theorem run_forwards (state : State) :
    Forwards state.count state.sink state.feed.readings (run state) := by
  -- A turn that is not the last leaves less to be read.
  induction left : state.feed.left using Nat.strongRecOn generalizing state with
  | ind count ih =>
      have onwards {next : State} (onward : state.turn.next = .onward next) :
          Forwards next.count next.sink next.feed.readings (run next) :=
        ih _ (left ▸ state.left_turn_lt onward) next rfl
      cases broken : state.feed.next.1.fault with
      | some fault =>
          cases interrupted : fault.isInterrupted with
          | true =>
              have turn := State.turn_of_interrupted broken interrupted
              have onward := congrArg Turn.next turn
              have goesOn : state.feed.next.1.goesOn = true := by
                simp [LineRead.goesOn, broken, interrupted]
              rw [run_of_onward onward, Feed.readings_of_goesOn goesOn, turn]
              exact .interrupted broken interrupted (onwards onward)
          | false =>
              have turn := State.turn_of_unread broken interrupted
              have last : state.feed.next.1.goesOn = false := by
                simp [LineRead.goesOn, broken, interrupted]
              rw [run_of_ended (congrArg Turn.next turn), Feed.readings_of_last last, turn]
              exact .unread broken interrupted
      | none =>
          by_cases empty : state.feed.next.1.line = []
          · have turn := State.turn_of_end broken empty
            have last : state.feed.next.1.goesOn = false := by
              simp [LineRead.goesOn, broken, empty]
            rw [run_of_ended (congrArg Turn.next turn), Feed.readings_of_last last, turn]
            exact .ended broken empty
          · have goesOn : state.feed.next.1.goesOn = true := by
              simp [LineRead.goesOn, broken, empty]
            rw [Feed.readings_of_goesOn goesOn]
            cases taken : (state.sink.forward state.feed.next.1.line).outcome with
            | error fault =>
                have turn := State.turn_of_unforwarded broken empty taken
                rw [run_of_ended (congrArg Turn.next turn), turn]
                exact .unforwarded broken empty taken
            | ok done =>
                have turn := State.turn_of_forwarded broken empty taken
                have onward := congrArg Turn.next turn
                rw [run_of_onward onward, turn]
                exact .forwarded broken empty taken (onwards onward)

/-- A relay forwards the readings of its reader. -/
theorem relay_forwards (reader : Reader) (sink : Sink) :
    Forwards 0 sink reader.lineReads (relay reader sink) :=
  run_forwards ⟨reader.feed, sink, 0⟩

/-! ## How many turns there are -/

/-- The loop ends after so many turns, and has then done this. -/
inductive EndsAfter : Nat -> State -> Report -> Prop
  | last {state : State} {outcome : Except Fault Nat}
      (ended : state.turn.next = .ended outcome) :
      EndsAfter 1 state ⟨state.turn.events, outcome⟩
  | onward {turns : Nat} {state next : State} {report : Report}
      (onward : state.turn.next = .onward next) (later : EndsAfter turns next report) :
      EndsAfter (turns + 1) state (report.after state.turn.events)

/-- It ends once only, and in one way. -/
theorem EndsAfter.unique {turns others : Nat} {state : State} {report other : Report}
    (ends : EndsAfter turns state report) (ends' : EndsAfter others state other) :
    turns = others ∧ report = other := by
  induction ends generalizing others other with
  | last ended =>
      cases ends' with
      | last ended' =>
          rw [ended] at ended'
          cases ended'
          exact ⟨rfl, rfl⟩
      | onward onward later =>
          rw [ended] at onward
          cases onward
  | onward onward later ih =>
      cases ends' with
      | last ended =>
          rw [onward] at ended
          cases ended
      | onward onward' later' =>
          rw [onward] at onward'
          cases onward'
          rcases ih later' with ⟨rfl, rfl⟩
          exact ⟨rfl, rfl⟩

/-- The loop ends: there are no more turns, but for the last, than there is left to be read. -/
theorem run_endsAfter (state : State) :
    ∃ turns, turns ≤ state.feed.left + 1 ∧ EndsAfter turns state (run state) := by
  induction left : state.feed.left using Nat.strongRecOn generalizing state with
  | ind count ih =>
      cases after : state.turn.next with
      | ended outcome =>
          rw [run_of_ended after]
          exact ⟨1, Nat.le_add_left 1 count, .last after⟩
      | onward next =>
          have less := left ▸ state.left_turn_lt after
          rcases ih _ less next rfl with ⟨turns, few, later⟩
          rw [run_of_onward after]
          exact ⟨turns + 1, by omega, .onward after later⟩

end Relay
end AstLink
