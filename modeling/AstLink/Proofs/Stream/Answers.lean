import AstLink.Proofs.Stream.Cutting
import AstLink.Proofs.Stream.Reading

namespace AstLink
namespace Stream

/-!
Readings of a buffered source, answer by answer.

A reader looks for one line after the other.  Its readings are easier to follow along the answers of
the source: each completes some lines, of which the first ends the line begun before, and begins
another.  `lineReadsFrom` is a function of the answer at hand, of the line begun and of the answers
to come, and the equations below say which for each answer.  It gives the readings that the reader
makes (`Reader.lineReads_buffered`).
-/

/-- The readings that the lines of one answer complete: the first adds to the line begun, which has
cost `events` so far. -/
def completed (events : List Event) (begun : Bytes) : List Bytes -> List LineRead
  | [] => []
  | line :: lines => ⟨events, begun ++ line, none⟩ :: lines.map LineRead.ofLine

/-- The readings that a buffered source serves, given its answers, up to the first at which the
relay must end.  `events` are the calls already made for the line `begun`. -/
def lineReadsFrom (events : List Event) (begun : Bytes) :
    List (Except Fault Bytes) -> List LineRead
  | [] =>
      let ending := events ++ [.read (.ok 0)]
      if begun.isEmpty then [⟨ending, [], none⟩]
      else [⟨ending, begun, none⟩, ⟨[.read (.ok 0)], [], none⟩]
  | answer :: answers =>
      let events := events ++ [Source.event answer]
      match answer with
      | .error fault =>
          if fault.isInterrupted then lineReadsFrom events begun answers
          else [⟨events, begun, some fault⟩]
      | .ok [] =>
          if begun.isEmpty then [⟨events, [], none⟩]
          else ⟨events, begun, none⟩ :: lineReadsFrom [] [] answers
      | .ok bytes =>
          match cutLines bytes with
          | ([], rest) => lineReadsFrom events (begun ++ rest) answers
          | (lines, rest) => completed events begun lines ++ lineReadsFrom [] rest answers

variable {events : List Event} {begun : Bytes} {answers : List (Except Fault Bytes)}

theorem lineReadsFrom_interrupted {fault : Fault} (interrupted : fault.isInterrupted = true) :
    lineReadsFrom events begun (.error fault :: answers) =
      lineReadsFrom (events ++ [Source.event (.error fault)]) begun answers := by
  rw [lineReadsFrom]
  simp [interrupted]

theorem lineReadsFrom_fault {fault : Fault} (final : fault.isInterrupted = false) :
    lineReadsFrom events begun (.error fault :: answers) =
      [⟨events ++ [Source.event (.error fault)], begun, some fault⟩] := by
  rw [lineReadsFrom]
  simp [final]

/-- The end of the stream with no line begun ends the relay. -/
theorem lineReadsFrom_end :
    lineReadsFrom events [] (.ok [] :: answers) =
      [⟨events ++ [Source.event (.ok [])], [], none⟩] := by
  rw [lineReadsFrom]
  rfl

/-- The end of the stream ends a line begun, and reading goes on after it. -/
theorem lineReadsFrom_held (held : begun ≠ []) :
    lineReadsFrom events begun (.ok [] :: answers) =
      ⟨events ++ [Source.event (.ok [])], begun, none⟩ :: lineReadsFrom [] [] answers := by
  rw [lineReadsFrom]
  simp [held]

/-- Bytes complete the lines in them, and what is begun after that is carried on.  Where no line is
completed, the calls made so far are carried on as well. -/
theorem lineReadsFrom_data {bytes : Bytes} (nonempty : bytes ≠ []) :
    lineReadsFrom events begun (.ok bytes :: answers) =
      completed (events ++ [Source.event (.ok bytes)]) begun (cutLines bytes).1 ++
        lineReadsFrom
          (if (cutLines bytes).1 = [] then events ++ [Source.event (.ok bytes)] else [])
          (carried begun bytes) answers := by
  rw [lineReadsFrom]
  · unfold carried
    rcases cutLines bytes with ⟨lines, rest⟩
    cases lines with
    | nil => rfl
    | cons line lines => rfl
  · exact nonempty

/-- A buffered source serves a reading at least, and which calls were made before for the line begun
is of account only for the calls of that first reading. -/
theorem exists_lineReadsFrom (begun : Bytes) (answers : List (Except Fault Bytes)) :
    ∃ (read : LineRead) (reads : List LineRead), ∀ events,
      lineReadsFrom events begun answers = read.after events :: reads := by
  induction answers generalizing begun with
  | nil =>
      by_cases held : begun = []
      · subst held
        exact ⟨⟨[.read (.ok 0)], [], none⟩, [], fun events => rfl⟩
      · refine ⟨⟨[.read (.ok 0)], begun, none⟩, [⟨[.read (.ok 0)], [], none⟩], fun events => ?_⟩
        rw [lineReadsFrom]
        simp [held, LineRead.after]
  | cons answer answers ih =>
      -- What a later reading adds to the calls, it adds after the call at hand.
      have onward (next : Bytes) : ∃ (read : LineRead) (reads : List LineRead), ∀ events,
          lineReadsFrom (events ++ [Source.event answer]) next answers =
            read.after events :: reads := by
        rcases ih next with ⟨read, reads, serves⟩
        refine ⟨read.after [Source.event answer], reads, fun events => ?_⟩
        rw [serves, LineRead.after, List.append_assoc]
        rfl
      cases answer with
      | error fault =>
          cases interrupted : fault.isInterrupted with
          | true =>
              rcases onward begun with ⟨read, reads, serves⟩
              refine ⟨read, reads, fun events => ?_⟩
              rw [lineReadsFrom_interrupted interrupted, serves]
          | false =>
              exact ⟨⟨[Source.event (.error fault)], begun, some fault⟩, [],
                fun events => lineReadsFrom_fault interrupted⟩
      | ok bytes =>
          by_cases empty : bytes = []
          · subst empty
            by_cases held : begun = []
            · subst held
              exact ⟨⟨[Source.event (.ok [])], [], none⟩, [], fun events => lineReadsFrom_end⟩
            · exact ⟨⟨[Source.event (.ok [])], begun, none⟩, _,
                fun events => lineReadsFrom_held held⟩
          · cases cut : (cutLines bytes).1 with
            | nil =>
                rcases onward (carried begun bytes) with ⟨read, reads, serves⟩
                refine ⟨read, reads, fun events => ?_⟩
                rw [lineReadsFrom_data empty, cut, if_pos rfl, serves]
                rfl
            | cons line lines =>
                refine ⟨⟨[Source.event (.ok bytes)], begun ++ line, none⟩,
                  lines.map LineRead.ofLine ++ lineReadsFrom [] (carried begun bytes) answers,
                  fun events => ?_⟩
                rw [lineReadsFrom_data empty, cut, if_neg (List.cons_ne_nil line lines)]
                rfl

/-- The readings that bytes complete each deliver a line. -/
theorem delivers_of_mem_completed {bytes : Bytes} {read : LineRead}
    (member : read ∈ completed events begun (cutLines bytes).1) :
    read.fault = none ∧ read.line ≠ [] := by
  have nonempty (line : Bytes) (inside : line ∈ (cutLines bytes).1) : line ≠ [] :=
    ne_nil_of_mem_cutLines inside
  cases cut : (cutLines bytes).1 with
  | nil =>
      rw [cut] at member
      cases member
  | cons line lines =>
      rw [cut] at member nonempty
      rcases List.mem_cons.mp member with first | later
      · rw [first]
        refine ⟨rfl, fun empty => ?_⟩
        exact nonempty line List.mem_cons_self (List.append_eq_nil_iff.mp empty).2
      · rcases List.mem_map.mp later with ⟨other, otherMember, equal⟩
        rw [← equal]
        exact ⟨rfl, nonempty other (List.mem_cons_of_mem _ otherMember)⟩

/-- Their lines are those finished, and their calls those made for the first of them. -/
theorem completed_eq (events : List Event) (begun bytes : Bytes) :
    (completed events begun (cutLines bytes).1).map LineRead.line = finished begun bytes ∧
      (completed events begun (cutLines bytes).1).flatMap LineRead.events =
        if (cutLines bytes).1 = [] then [] else events := by
  unfold finished
  cases (cutLines bytes).1 with
  | nil => exact ⟨rfl, rfl⟩
  | cons line lines =>
      constructor
      · simp [completed, Function.comp_def, LineRead.ofLine]
      · simp [completed, List.flatMap_map, LineRead.ofLine]

/-- The readings that bytes complete deliver the lines finished, and their calls are those made for
the first of them. -/
theorem append_completed (events : List Event) (begun bytes : Bytes) (reads : List LineRead) :
    LineRead.lines (completed events begun (cutLines bytes).1 ++ reads) =
        finished begun bytes ++ LineRead.lines reads ∧
      LineRead.breaking? (completed events begun (cutLines bytes).1 ++ reads) =
        LineRead.breaking? reads ∧
      LineRead.calls (completed events begun (cutLines bytes).1 ++ reads) =
        (if (cutLines bytes).1 = [] then [] else events) ++ LineRead.calls reads := by
  have delivering : ∀ read ∈ completed events begun (cutLines bytes).1,
      read.fault = none ∧ read.line ≠ [] := fun read member => delivers_of_mem_completed member
  have front := LineRead.append_of_lines reads delivering
  have parts := completed_eq events begun bytes
  rw [parts.1, parts.2] at front
  exact front

/-! ## The reader -/

namespace Feed

/-- The lines in the buffer are delivered first, and then a line is begun with what is left. -/
theorem readings_buffered_of_uncut {answers : List (Except Fault Bytes)}
    (uncut : ∀ ahead, cutLine? ahead = none ->
      (buffered ahead answers).readings = lineReadsFrom [] ahead answers) (ahead : Bytes) :
    (buffered ahead answers).readings =
      (cutLines ahead).1.map LineRead.ofLine ++ lineReadsFrom [] (cutLines ahead).2 answers := by
  -- Each line that is cut off makes the buffer shorter.
  induction size : ahead.length using Nat.strongRecOn generalizing ahead with
  | ind count ih =>
      cases cut : cutLine? ahead with
      | none =>
          rw [cutLines_of_uncut cut]
          exact uncut ahead cut
      | some parts =>
          have split := cutLine?_append cut
          have goesOn : (buffered ahead answers).next.1.goesOn = true := by
            rw [next_of_cut answers cut]
            simpa [LineRead.goesOn, LineRead.ofLine] using split.2
          have shorter : parts.2.length < count := by
            rw [← size, split.1, List.length_append]
            exact Nat.lt_add_of_pos_left (List.length_pos_iff.mpr split.2)
          rw [readings_of_goesOn goesOn, next_of_cut answers cut, cutLines_of_cutLine? cut,
            ih parts.2.length shorter parts.2 rfl]
          rfl

/-- A reader that goes on with a line serves what is served from its next answer on. -/
theorem readings_readOn (events : List Event) (begun : Bytes)
    (answers : List (Except Fault Bytes)) :
    (if (readOn events begun answers).1.goesOn then
      (readOn events begun answers).1 :: (readOn events begun answers).2.readings
    else [(readOn events begun answers).1]) = lineReadsFrom events begun answers := by
  induction answers generalizing events begun with
  | nil =>
      have nothing : (buffered [] []).readings = [⟨[.read (.ok 0)], [], none⟩] :=
        readings_of_last rfl
      rw [readOn, lineReadsFrom, nothing]
      cases begun with
      | nil => rfl
      | cons byte begun => rfl
  | cons answer answers ih =>
      have fresh (ahead : Bytes) (uncut : cutLine? ahead = none) :
          (buffered ahead answers).readings = lineReadsFrom [] ahead answers := by
        rw [readings_eq, next_of_uncut answers uncut]
        exact ih [] ahead
      have served := readings_buffered_of_uncut fresh
      cases answer with
      | error fault =>
          cases interrupted : fault.isInterrupted with
          | true =>
              rw [lineReadsFrom_interrupted interrupted, readOn]
              simp only [interrupted, if_true]
              exact ih _ begun
          | false =>
              rw [lineReadsFrom_fault interrupted, readOn]
              simp [interrupted, LineRead.goesOn]
      | ok bytes =>
          by_cases empty : bytes = []
          · subst empty
            rw [readOn]
            by_cases held : begun = []
            · subst held
              rw [lineReadsFrom_end]
              rfl
            · have nothing : cutLines [] = ([], []) := rfl
              rw [lineReadsFrom_held held, served []]
              simp [LineRead.goesOn, held, nothing]
          · rw [lineReadsFrom_data empty, readOn]
            · cases cut : cutLine? bytes with
              | none =>
                  have whole := cutLines_of_uncut cut
                  rw [carried, whole]
                  exact ih _ (begun ++ bytes)
              | some parts =>
                  have held := (cutLine?_append cut).2
                  have lines := cutLines_of_cutLine? cut
                  rw [carried, lines]
                  simp [LineRead.goesOn, held, served, completed]
            · exact empty

end Feed

/-- The readings of a buffered source, as the reader makes them. -/
theorem Reader.lineReads_buffered (capacity : Nat) (steps : List Source.Step) :
    (Reader.buffered capacity steps).lineReads =
      lineReadsFrom [] [] (Source.answers capacity steps) := by
  rw [Reader.lineReads, Feed.readings_eq]
  exact Feed.readings_readOn [] [] (Source.answers capacity steps)

end Stream
end AstLink
