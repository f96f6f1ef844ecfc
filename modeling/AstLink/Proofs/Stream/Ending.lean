import AstLink.Proofs.Stream.Delivery

namespace AstLink
namespace Stream

/-!
Where the lines of a buffered source end.

A reading delivers a line when the source has given its newline, or when it has given no byte with a
line begun.  In the second case the source was called last for that answer, and whatever it gave
before is in the line or in the lines before it (`Settled`).  Each answer keeps this up: the end of
the stream, bytes that complete lines and begin another, and a call that is broken off.  The main
statement is `lineReadsFrom_settled`.
-/

/-- A line that is read ends with its newline, or it ends where the source has just given no byte,
and then all bytes read by that time are those of the line and of the lines before it.  `begun` are
the bytes of a line begun before these readings, and `events` the calls that were made for it. -/
def Settled (events : List Event) (begun : Bytes) (reads : List LineRead) : Prop :=
  ∀ front read back, reads = front ++ read :: back -> read.fault = none -> read.line ≠ [] ->
    IsLine read.line ∨ Bytes.newline ∉ read.line ∧
      ∃ before, read.events = before ++ [.read (.ok 0)] ∧
        Event.received (LineRead.calls front ++ before) + begun.length =
          Event.received events + (LineRead.lines front).flatten.length + read.line.length

namespace Settled

variable {events : List Event} {begun : Bytes} {reads : List LineRead}

/-- A reading that delivers no line is the last. -/
theorem last {final : LineRead} (silent : final.fault ≠ none ∨ final.line = []) :
    Settled events begun [final] := by
  intro front read back split whole held
  cases front with
  | nil =>
      rw [List.nil_append] at split
      have same := (List.cons.inj split).1
      rw [← same] at whole held
      exact (silent.elim (fun broken => broken whole) held).elim
  | cons first front => exact absurd (List.cons.inj split).2 (by simp)

/-- Calls that bring nothing do not matter. -/
theorem of_received {kept : List Event} (settled : Settled kept begun reads)
    (same : Event.received kept = Event.received events) : Settled events begun reads := by
  intro front read back split whole held
  rw [← same]
  exact settled front read back split whole held

/-- The end of the stream ends the line begun. -/
theorem held (nonempty : begun ≠ []) (unended : Bytes.newline ∉ begun)
    (settled : Settled [] [] reads) :
    Settled events begun (⟨events ++ [.read (.ok 0)], begun, none⟩ :: reads) := by
  intro front read back split whole held
  cases front with
  | nil =>
      rw [List.nil_append] at split
      rw [← (List.cons.inj split).1]
      exact Or.inr ⟨unended, events, rfl, by simp [LineRead.calls, LineRead.lines]⟩
  | cons first front =>
      have parts := List.cons.inj split
      refine (settled front read back parts.2 whole held).imp_right ?_
      rintro ⟨lacking, before, calls, count⟩
      refine ⟨lacking, before, calls, ?_⟩
      have ahead := LineRead.append_line (events ++ [.read (.ok 0)]) nonempty front
      rw [← parts.1, ahead.1, ahead.2.2]
      simp only [Event.received_append, Event.received, Event.gain, List.flatten_append,
        List.flatten_singleton, List.length_append, List.length_nil] at count ⊢
      omega

theorem line_mem_finished {bytes : Bytes} {read : LineRead}
    (member : read ∈ completed events begun (cutLines bytes).1) :
    read.line ∈ finished begun bytes := by
  unfold finished
  cases cut : (cutLines bytes).1 with
  | nil =>
      rw [cut] at member
      cases member
  | cons line lines =>
      rw [cut] at member
      rcases List.mem_cons.mp member with first | later
      · exact first ▸ List.mem_cons_self
      · rcases List.mem_map.mp later with ⟨other, inside, equal⟩
        exact equal ▸ List.mem_cons_of_mem _ inside

/-- Bytes end the lines that they complete, and begin the next. -/
theorem data {bytes : Bytes} (unended : Bytes.newline ∉ begun)
    (settled : Settled
      (if (cutLines bytes).1 = [] then events ++ [Source.event (.ok bytes)] else [])
      (carried begun bytes) reads) :
    Settled events begun
      (completed (events ++ [Source.event (.ok bytes)]) begun (cutLines bytes).1 ++ reads) := by
  intro front read back split whole held
  rcases Lists.mem_or_later_of_append_eq split with inside | ⟨rest, equal, later⟩
  · exact Or.inl (isLine_of_mem_finished unended (line_mem_finished inside))
  · -- The bytes complete readings before this one.
    refine (settled rest read back later whole held).imp_right ?_
    rintro ⟨lacking, before, calls, count⟩
    refine ⟨lacking, before, calls, ?_⟩
    have ahead := append_completed (events ++ [Source.event (.ok bytes)]) begun bytes rest
    have bytesKept := congrArg List.length (flatten_finished begun bytes)
    have callsKept : Event.received
          (if (cutLines bytes).1 = [] then [] else events ++ [Source.event (.ok bytes)]) +
        Event.received
          (if (cutLines bytes).1 = [] then events ++ [Source.event (.ok bytes)] else []) =
        Event.received events + bytes.length := by
      have brought : Event.received [Source.event (.ok bytes)] = bytes.length := rfl
      rw [← brought, ← Event.received_append]
      split
      · rw [List.nil_append, Event.received_append]
      · rw [List.append_nil, Event.received_append]
    rw [equal, ahead.1, ahead.2.2]
    simp only [Event.received_append, List.flatten_append, List.length_append] at count bytesKept ⊢
    omega

end Settled

/-- The readings of a buffered source are settled. -/
theorem lineReadsFrom_settled (answers : List (Except Fault Bytes)) (events : List Event)
    (begun : Bytes) (unended : Bytes.newline ∉ begun) :
    Settled events begun (lineReadsFrom events begun answers) := by
  -- The line begun and the calls for it change from answer to answer.
  induction answers generalizing events begun with
  | nil =>
      unfold lineReadsFrom
      by_cases empty : begun = []
      · subst empty
        exact .last (Or.inr rfl)
      · simp only [List.isEmpty_iff, empty, if_false]
        exact .held empty unended (.last (Or.inr rfl))
  | cons answer answers ih =>
      cases answer with
      | error fault =>
          cases interrupted : fault.isInterrupted with
          | true =>
              rw [lineReadsFrom_interrupted interrupted]
              exact (ih _ begun unended).of_received (Event.received_append events _)
          | false =>
              rw [lineReadsFrom_fault interrupted]
              exact .last (Or.inl (Option.some_ne_none fault))
      | ok bytes =>
          by_cases empty : bytes = []
          · subst empty
            by_cases held : begun = []
            · subst held
              rw [lineReadsFrom_end]
              exact .last (Or.inr rfl)
            · rw [lineReadsFrom_held held]
              exact .held held unended (ih [] [] List.not_mem_nil)
          · rw [lineReadsFrom_data empty]
            exact .data unended (ih _ _ (newline_notMem_carried unended bytes))

end Stream
end AstLink
