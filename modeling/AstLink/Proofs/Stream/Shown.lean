import AstLink.Stream.Event

namespace AstLink
namespace Stream

/-!
What is to be seen of an output.

A writer may keep what it accepts until it is flushed.  So a list of calls is looked at in two
parts: the portions that its successful flushes made visible, one for each, and what was accepted
after the last of them.  Nothing is counted twice and nothing is left out (`run_bytes`), and there
are as many portions as successful flushes (`length_visible_run`).
-/

/-- What has become visible of an output, and what has not yet. -/
structure Shown where
  /-- What each successful flush added. -/
  visible : List Bytes := []
  /-- What was accepted since. -/
  pending : Bytes := []
  deriving DecidableEq, Repr

namespace Shown

/-- Both parts together, in the order in which they were accepted. -/
def bytes (shown : Shown) : Bytes := shown.visible.flatten ++ shown.pending

/-- What one more call changes.  A flush that fails makes nothing visible. -/
def after (shown : Shown) (event : Event) : Shown :=
  if event.isFlush then ⟨shown.visible ++ [shown.pending], []⟩
  else ⟨shown.visible, shown.pending ++ event.accepted⟩

/-- What a list of calls changes. -/
def run (shown : Shown) (events : List Event) : Shown := events.foldl after shown

@[simp] theorem run_nil (shown : Shown) : shown.run [] = shown := rfl

@[simp] theorem run_cons (shown : Shown) (event : Event) (events : List Event) :
    shown.run (event :: events) = (shown.after event).run events := rfl

@[simp] theorem run_append (shown : Shown) (first second : List Event) :
    shown.run (first ++ second) = (shown.run first).run second := List.foldl_append

/-- A successful flush hands over no byte. -/
theorem accepted_of_isFlush {event : Event} (isFlush : event.isFlush = true) :
    event.accepted = [] := by
  cases event with
  | flush answer => rfl
  | read answer => cases isFlush
  | readLine held answer => cases isFlush
  | write offered answer => cases isFlush

theorem after_bytes (shown : Shown) (event : Event) :
    (shown.after event).bytes = shown.bytes ++ event.accepted := by
  unfold after bytes
  by_cases isFlush : event.isFlush = true
  · simp [isFlush, accepted_of_isFlush isFlush]
  · simp [isFlush]

/-- The two parts hold exactly the bytes that were handed over. -/
theorem run_bytes (shown : Shown) (events : List Event) :
    (shown.run events).bytes = shown.bytes ++ Event.output events := by
  induction events generalizing shown with
  | nil => simp [Event.output]
  | cons event events ih =>
      rw [run_cons, ih, after_bytes]
      simp [Event.output]

/-- Each successful flush adds one portion. -/
theorem length_visible_run (shown : Shown) (events : List Event) :
    (shown.run events).visible.length =
      shown.visible.length + events.countP Event.isFlush := by
  induction events generalizing shown with
  | nil => simp
  | cons event events ih =>
      rw [run_cons, ih, List.countP_cons]
      by_cases isFlush : event.isFlush = true
      · simp only [after, isFlush, if_true, List.length_append, List.length_singleton]
        omega
      · simp [after, isFlush]

/-- As long as nothing is flushed, what is handed over stays pending. -/
theorem run_of_unflushed {events : List Event} (unflushed : ∀ event ∈ events, event.isFlush = false)
    (shown : Shown) :
    shown.run events = ⟨shown.visible, shown.pending ++ Event.output events⟩ := by
  induction events generalizing shown with
  | nil => simp [Event.output]
  | cons event events ih =>
      have first := unflushed event List.mem_cons_self
      have later := ih (fun other member => unflushed other (List.mem_cons_of_mem _ member))
      rw [run_cons, later]
      simp [after, first, Event.output]

/-- Calls of the source are not to be seen at the writer. -/
theorem run_of_reading {events : List Event} (reading : ∀ event ∈ events, event.isWriter = false)
    (shown : Shown) : shown.run events = shown := by
  induction events with
  | nil => rfl
  | cons event events ih =>
      have later := ih (fun other member => reading other (List.mem_cons_of_mem _ member))
      have unseen : shown.after event = shown := by
        cases event with
        | read answer => simp [after, Event.isFlush, Event.accepted]
        | readLine held answer => simp [after, Event.isFlush, Event.accepted]
        | write offered answer => cases reading _ List.mem_cons_self
        | flush answer => cases reading _ List.mem_cons_self
      rw [run_cons, unseen, later]

end Shown

namespace Event

/-- What is to be seen of an output after a list of calls. -/
def shown (events : List Event) : Shown := Shown.run {} events

/-- The bytes handed over, told apart by the flushes. -/
theorem output_eq_shown (events : List Event) : output events = (shown events).bytes := by
  rw [shown, Shown.run_bytes]
  rfl

/-- The number of successful flushes. -/
theorem countP_isFlush_eq_shown (events : List Event) :
    events.countP isFlush = (shown events).visible.length := by
  rw [shown, Shown.length_visible_run]
  exact (Nat.zero_add _).symm

end Event

end Stream
end AstLink
