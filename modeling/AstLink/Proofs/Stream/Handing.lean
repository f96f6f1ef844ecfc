import AstLink.Proofs.Stream.Shown
import AstLink.Stream.Sink

namespace AstLink
namespace Stream

/-!
What handing a line to a writer comes to.

The script of a writer says beforehand with which fault writing will end, if it ever ends with one:
the first failing step of its writes decides, and a step that only shortens or breaks off a write
decides nothing.  In the same way the first failing step of its flushes decides.  Whatever was
written before, a line is then forwarded in one of three ways (`Forwarded`): all of it becomes
visible, a proper prefix of it stays pending, or all of it stays pending.
-/

/-- Whether a call is a flush, be it successful or not. -/
def Event.isFlushing : Event -> Bool
  | .flush _ => true
  | _ => false

/-- Whether each of some calls is a write. -/
def Event.OnlyWrites (events : List Event) : Prop :=
  ∀ event ∈ events, ∃ offered answer, event = .write offered answer

namespace Event.OnlyWrites

variable {events : List Event}

theorem isWriter (onlyWrites : OnlyWrites events) : ∀ event ∈ events, event.isWriter = true := by
  intro event member
  rcases onlyWrites event member with ⟨offered, answer, rfl⟩
  rfl

theorem isFlushing (onlyWrites : OnlyWrites events) :
    ∀ event ∈ events, event.isFlushing = false := by
  intro event member
  rcases onlyWrites event member with ⟨offered, answer, rfl⟩
  rfl

theorem isFlush (onlyWrites : OnlyWrites events) : ∀ event ∈ events, event.isFlush = false := by
  intro event member
  rcases onlyWrites event member with ⟨offered, answer, rfl⟩
  rfl

theorem filter_isFlushing (onlyWrites : OnlyWrites events) :
    events.filter Event.isFlushing = [] :=
  List.filter_eq_nil_iff.mpr fun event member =>
    Bool.eq_false_iff.mp (onlyWrites.isFlushing event member)

theorem flush_notMem (onlyWrites : OnlyWrites events) (answer : Except Fault Unit) :
    .flush answer ∉ events :=
  fun member => nomatch onlyWrites.isFlushing _ member

end Event.OnlyWrites

namespace Sink

/-- The fault with which writing ends when it comes to a step, if it does. -/
def Step.failure? : Step -> Option Fault
  | .all => none
  | .atMost limit => if limit = 0 then some Fault.writeZero else none
  | .fault reason => if reason.isInterrupted then none else some reason

/-- The fault with which writing ends, if enough is written. -/
def writeFault? (sink : Sink) : Option Fault := sink.writes.findSome? Step.failure?

/-- The fault with which flushing ends, if there are enough flushes. -/
def flushFault? (sink : Sink) : Option Fault := sink.flushes.findSome? id

/-- A writer of which no flush fails and no write fails for good. -/
def NeverFails (sink : Sink) : Prop :=
  (∀ step ∈ sink.writes, step.failure? = none) ∧ ∀ flush ∈ sink.flushes, flush = none

instance : DecidablePred NeverFails := fun _ => inferInstanceAs (Decidable (_ ∧ _))

theorem NeverFails.writeFault? {sink : Sink} (neverFails : sink.NeverFails) :
    sink.writeFault? = none := List.findSome?_eq_none_iff.mpr neverFails.1

theorem NeverFails.flushFault? {sink : Sink} (neverFails : sink.NeverFails) :
    sink.flushFault? = none := List.findSome?_eq_none_iff.mpr neverFails.2

/-- A writer with no such fault ahead never fails. -/
theorem NeverFails.of_faults {sink : Sink} (writeFault : sink.writeFault? = none)
    (flushFault : sink.flushFault? = none) : sink.NeverFails :=
  ⟨List.findSome?_eq_none_iff.mp writeFault, List.findSome?_eq_none_iff.mp flushFault⟩

/-! ## Writing -/

/-- What writing comes to: all bytes are handed over, or a proper prefix of them and then the first
failing step is met.  Flushes are neither made nor used up. -/
inductive Written (sink : Sink) (bytes : Bytes) (handed : Handed) : Prop
  /-- All is handed over. -/
  | all (outcome : handed.outcome = .ok ())
      (output : Event.output handed.events = bytes)
      (unflushed : ∀ event ∈ handed.events, event.isFlush = false)
      (writeFault : handed.sink.writeFault? = sink.writeFault?)
      (flushes : handed.sink.flushes = sink.flushes)
  /-- A proper prefix is handed over. -/
  | part (fault : Fault) (outcome : handed.outcome = .error fault)
      (first : sink.writeFault? = some fault)
      (output : Event.output handed.events <+: bytes)
      (shorter : Event.output handed.events ≠ bytes)
      (unflushed : ∀ event ∈ handed.events, event.isFlush = false)

/-- One write in front of a writing, whatever it accepted. -/
theorem Written.after {rest : Sink} {bytes : Bytes} {handed : Handed}
    (written : Written rest bytes handed) (event : Event) (sink : Sink)
    (same : rest.writeFault? = sink.writeFault?) (flushes : rest.flushes = sink.flushes)
    (unflushedFirst : event.isFlush = false) :
    Written sink (event.accepted ++ bytes) (handed.after [event]) := by
  have outputAfter : Event.output (handed.after [event]).events =
      event.accepted ++ Event.output handed.events := by
    simp [Handed.after, Event.output]
  have unflushedAfter (unflushed : ∀ other ∈ handed.events, other.isFlush = false) :
      ∀ other ∈ (handed.after [event]).events, other.isFlush = false := by
    intro other member
    rcases List.mem_cons.mp member with equal | later
    · exact equal ▸ unflushedFirst
    · exact unflushed other later
  cases written with
  | all outcome output unflushed writeFault kept =>
      exact .all outcome (by rw [outputAfter, output]) (unflushedAfter unflushed)
        (writeFault.trans same) (kept.trans flushes)
  | part fault outcome first output shorter unflushed =>
      refine .part fault outcome (same ▸ first) ?_ ?_ (unflushedAfter unflushed)
      · rw [outputAfter]
        exact (List.prefix_append_right_inj event.accepted).mpr output
      · rw [outputAfter]
        exact fun equal => shorter (List.append_cancel_left equal)

/-- The step that a writing meets first decides, unless it lets the writing go on. -/
theorem writeFault?_cons (step : Step) (writes : List Step) (flushes : List (Option Fault)) :
    Sink.writeFault? ⟨step :: writes, flushes⟩ =
      (step.failure?).or (Sink.writeFault? ⟨writes, flushes⟩) := by
  cases found : step.failure? with
  | none => simp [writeFault?, found]
  | some fault => simp [writeFault?, found]

/-- Writing hands over all bytes, or ends at the first failing step. -/
theorem writeAll_written (flushes : List (Option Fault)) (writes : List Step) (bytes : Bytes) :
    Written ⟨writes, flushes⟩ bytes (writeAll flushes writes bytes) := by
  fun_induction writeAll flushes writes bytes with
  | case1 writes => exact .all rfl rfl (fun _ impossible => nomatch impossible) rfl rfl
  | case2 bytes nonempty =>
      refine .all rfl ?_ ?_ rfl rfl
      · simp [Event.output, Event.accepted]
      · simp [Event.isFlush]
  | case3 writes bytes nonempty =>
      refine .all rfl ?_ ?_ ?_ rfl
      · simp [Event.output, Event.accepted]
      · simp [Event.isFlush]
      · simp [writeFault?_cons, Step.failure?]
  | case4 limit writes bytes nonempty count zeroTaken =>
      have length : bytes.length ≠ 0 := by simpa using (show bytes ≠ [] from nonempty)
      have zero : limit = 0 := by omega
      refine .part Fault.writeZero rfl ?_ ?_ ?_ ?_
      · simp [writeFault?_cons, Step.failure?, zero]
      · simp [Event.output, Event.accepted]
      · simpa [Event.output, Event.accepted] using Ne.symm (show bytes ≠ [] from nonempty)
      · simp [Event.isFlush]
  | case5 limit writes bytes nonempty count someTaken ih =>
      have positive : limit ≠ 0 := by omega
      have written : Written ⟨.atMost limit :: writes, flushes⟩
          (bytes.take count ++ bytes.drop count) _ :=
        ih.after (.write bytes (.ok count)) ⟨.atMost limit :: writes, flushes⟩
          (by simp [writeFault?_cons, Step.failure?, positive]) rfl rfl
      rwa [List.take_append_drop] at written
  | case6 fault writes bytes nonempty interrupted ih =>
      exact ih.after (.write bytes (.error fault)) ⟨.fault fault :: writes, flushes⟩
        (by simp [writeFault?_cons, Step.failure?, interrupted]) rfl rfl
  | case7 fault writes bytes nonempty final =>
      refine .part fault rfl ?_ ?_ ?_ ?_
      · simp [writeFault?_cons, Step.failure?, final]
      · simp [Event.output, Event.accepted]
      · simpa [Event.output, Event.accepted] using Ne.symm (show bytes ≠ [] from nonempty)
      · simp [Event.isFlush]

/-- Writing makes no calls but writes. -/
theorem writeAll_writes (flushes : List (Option Fault)) (writes : List Step) (bytes : Bytes) :
    Event.OnlyWrites (writeAll flushes writes bytes).events := by
  have onward {handed : Handed} (offered : Bytes) (answer : Except Fault Nat)
      (others : Event.OnlyWrites handed.events) :
      Event.OnlyWrites (handed.after [.write offered answer]).events := by
    intro event member
    rcases List.mem_cons.mp member with equal | later
    · exact ⟨offered, answer, equal⟩
    · exact others event later
  fun_induction writeAll flushes writes bytes with
  | case1 => exact fun _ impossible => nomatch impossible
  | case2 => simp [Event.OnlyWrites]
  | case3 => simp [Event.OnlyWrites]
  | case4 => simp [Event.OnlyWrites]
  | case5 limit writes bytes nonempty count someTaken ih => exact onward _ _ ih
  | case6 fault writes bytes nonempty interrupted ih => exact onward _ _ ih
  | case7 => simp [Event.OnlyWrites]

/-! ## Flushing -/

/-- A flush succeeds and leaves the fault to come, or it ends with that fault. -/
theorem flush_cases (sink : Sink) :
    (sink.flush.outcome = .ok () ∧ sink.flush.events = [.flush (.ok ())] ∧
      sink.flush.sink.writes = sink.writes ∧ sink.flush.sink.flushFault? = sink.flushFault?) ∨
    ∃ fault, sink.flush.outcome = .error fault ∧ sink.flush.events = [.flush (.error fault)] ∧
      sink.flushFault? = some fault := by
  rcases sink with ⟨writes, flushes⟩
  cases flushes with
  | nil => exact Or.inl ⟨rfl, rfl, rfl, rfl⟩
  | cons first flushes =>
      cases first with
      | none => exact Or.inl ⟨rfl, rfl, rfl, rfl⟩
      | some fault => exact Or.inr ⟨fault, rfl, rfl, rfl⟩

theorem flush_events (sink : Sink) : sink.flush.events = [.flush sink.flush.outcome] := by
  rcases sink.flush_cases with ⟨outcome, events, _⟩ | ⟨fault, outcome, events, _⟩
  · rw [outcome, events]
  · rw [outcome, events]

/-! ## Forwarding a line -/

/-- What forwarding a line comes to, after portions that are visible already. -/
inductive Forwarded (sink : Sink) (line : Bytes) (handed : Handed) : Prop
  /-- The line becomes visible as one portion. -/
  | visible (outcome : handed.outcome = .ok ())
      (shown : ∀ before, Shown.run ⟨before, []⟩ handed.events = ⟨before ++ [line], []⟩)
      (writeFault : handed.sink.writeFault? = sink.writeFault?)
      (flushFault : handed.sink.flushFault? = sink.flushFault?)
  /-- Writing ends within the line: a proper prefix of it stays pending. -/
  | unwritten (fault : Fault) (part : Bytes) (outcome : handed.outcome = .error fault)
      (first : sink.writeFault? = some fault) (isPart : part <+: line) (shorter : part ≠ line)
      (shown : ∀ before, Shown.run ⟨before, []⟩ handed.events = ⟨before, part⟩)
  /-- The flush fails: all of the line stays pending. -/
  | unflushed (fault : Fault) (outcome : handed.outcome = .error fault)
      (first : sink.flushFault? = some fault)
      (shown : ∀ before, Shown.run ⟨before, []⟩ handed.events = ⟨before, line⟩)

theorem forward_forwarded (sink : Sink) (line : Bytes) :
    Forwarded sink line (sink.forward line) := by
  unfold forward
  cases writeAll_written sink.flushes sink.writes line with
  | part fault outcome first output shorter unflushed =>
      simp only [outcome]
      refine .unwritten fault _ outcome first output shorter (fun before => ?_)
      rw [Shown.run_of_unflushed unflushed]
      rfl
  | all outcome output unflushed writeFault kept =>
      simp only [outcome]
      have pending (before : List Bytes) :
          Shown.run ⟨before, []⟩ (writeAll sink.flushes sink.writes line).events =
            ⟨before, line⟩ := by
        rw [Shown.run_of_unflushed unflushed, output]
        rfl
      have keptFault : (writeAll sink.flushes sink.writes line).sink.flushFault? =
          sink.flushFault? := congrArg (List.findSome? id) kept
      rcases flush_cases (writeAll sink.flushes sink.writes line).sink with
        ⟨flushed, events, keptWrites, laterFault⟩ | ⟨fault, failed, events, first⟩
      · refine .visible flushed (fun before => ?_) ?_ (laterFault.trans keptFault)
        · simp only [Handed.after, events, Shown.run_append, pending]
          rfl
        · exact (congrArg (List.findSome? Step.failure?) keptWrites).trans writeFault
      · refine .unflushed fault failed (keptFault ▸ first) (fun before => ?_)
        simp only [Handed.after, events, Shown.run_append, pending]
        simp [Shown.after, Event.isFlush, Event.accepted]

/-- A writer that never fails takes a line, and does not fail later, either. -/
theorem NeverFails.forward {sink : Sink} (neverFails : sink.NeverFails) (line : Bytes) :
    (sink.forward line).outcome = .ok () ∧
      (∀ before, Shown.run ⟨before, []⟩ (sink.forward line).events = ⟨before ++ [line], []⟩) ∧
      (sink.forward line).sink.NeverFails := by
  cases sink.forward_forwarded line with
  | visible outcome shown writeFault flushFault =>
      exact ⟨outcome, shown, .of_faults (writeFault.trans neverFails.writeFault?)
        (flushFault.trans neverFails.flushFault?)⟩
  | unwritten fault part outcome first isPart shorter shown =>
      exact nomatch neverFails.writeFault?.symm.trans first
  | unflushed fault outcome first shown =>
      exact nomatch neverFails.flushFault?.symm.trans first

/-- Forwarding a line is writing it, and then one flush, unless not all of it is written. -/
theorem forward_writes (sink : Sink) (line : Bytes) :
    ∃ writes last, (sink.forward line).events = writes ++ last ∧
      Event.OnlyWrites writes ∧
      (last = [] ∧ (∃ fault, (sink.forward line).outcome = .error fault) ∨
        last = [.flush (sink.forward line).outcome] ∧ Event.output writes = line) := by
  have writing := writeAll_writes sink.flushes sink.writes line
  unfold forward
  cases writeAll_written sink.flushes sink.writes line with
  | part fault outcome _ _ _ _ =>
      simp only [outcome]
      exact ⟨_, [], (List.append_nil _).symm, writing, Or.inl ⟨rfl, fault, rfl⟩⟩
  | all outcome output _ _ _ =>
      simp only [outcome]
      refine ⟨_, _, ?_, writing, Or.inr ⟨rfl, output⟩⟩
      rw [Handed.after, flush_events]

/-- Forwarding a line makes calls of the writer alone. -/
theorem forward_isWriter (sink : Sink) (line : Bytes) :
    ∀ event ∈ (sink.forward line).events, event.isWriter = true := by
  rcases sink.forward_writes line with ⟨writes, last, events, writing, ended⟩
  intro event member
  rw [events] at member
  rcases List.mem_append.mp member with write | final
  · exact writing.isWriter event write
  · rcases ended with ⟨rfl, _⟩ | ⟨rfl, _⟩
    · cases final
    · rw [List.mem_singleton.mp final]
      rfl

/-- A line that is forwarded costs one flush, which succeeds. -/
theorem forward_flushes (sink : Sink) (line : Bytes) (done : (sink.forward line).outcome = .ok ()) :
    (sink.forward line).events.filter Event.isFlushing = [.flush (.ok ())] := by
  rcases sink.forward_writes line with ⟨writes, last, events, writing, ended⟩
  rcases ended with ⟨_, fault, failed⟩ | ⟨equal, _⟩
  · rw [done] at failed
    cases failed
  · rw [events, equal, done, List.filter_append, writing.filter_isFlushing]
    rfl

end Sink
end Stream
end AstLink
