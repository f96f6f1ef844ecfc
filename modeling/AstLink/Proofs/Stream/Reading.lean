import AstLink.Proofs.Stream.Shown
import AstLink.Stream.Line

namespace AstLink
namespace Stream

/-!
Readings of lines, as the relay takes them.

The relay goes from reading to reading and ends at the first after which it cannot go on.  So what a
reader serves comes down to the lines delivered before that reading and to its fault, if it has one.
The calls that a reading makes are calls of the reader alone; nothing of them is to be seen at the
writer.
-/

namespace LineRead

/-- The lines to be forwarded: those of the readings without a fault, up to the reading at which
the relay must end. -/
def lines (reads : List LineRead) : List Bytes :=
  ((reads.takeWhile goesOn).filter (fun read => read.fault.isNone)).map LineRead.line

/-- The fault of the reading at which the relay must end.  There is none where the stream ends. -/
def breaking? (reads : List LineRead) : Option Fault :=
  (reads.find? (fun read => !read.goesOn)).bind LineRead.fault

/-- The calls made for the readings, up to the one at which the relay must end. -/
def calls : List LineRead -> List Event
  | [] => []
  | read :: reads => read.events ++ if read.goesOn then calls reads else []

variable {read : LineRead} (reads : List LineRead)

/-- A reading that was broken off counts for nothing. -/
theorem lines_cons_of_interrupted {fault : Fault} (broken : read.fault = some fault)
    (interrupted : fault.isInterrupted = true) :
    lines (read :: reads) = lines reads ∧ breaking? (read :: reads) = breaking? reads := by
  have goesOn : read.goesOn = true := by simp [goesOn, broken, interrupted]
  constructor
  · simp [lines, goesOn, broken]
  · simp [breaking?, goesOn]

/-- At any other fault there are no more lines. -/
theorem lines_cons_of_fault {fault : Fault} (broken : read.fault = some fault)
    (final : fault.isInterrupted = false) :
    lines (read :: reads) = [] ∧ breaking? (read :: reads) = some fault := by
  have goesOn : read.goesOn = false := by simp [goesOn, broken, final]
  constructor
  · simp [lines, goesOn]
  · simp [breaking?, goesOn, broken]

/-- At the end of the stream there are no more lines, either. -/
theorem lines_cons_of_end (whole : read.fault = none) (empty : read.line = []) :
    lines (read :: reads) = [] ∧ breaking? (read :: reads) = none := by
  have goesOn : read.goesOn = false := by simp [goesOn, whole, empty]
  constructor
  · simp [lines, goesOn]
  · simp [breaking?, goesOn, whole]

theorem lines_cons_of_line (whole : read.fault = none) (nonempty : read.line ≠ []) :
    lines (read :: reads) = read.line :: lines reads ∧
      breaking? (read :: reads) = breaking? reads := by
  have goesOn : read.goesOn = true := by simp [goesOn, whole, nonempty]
  constructor
  · simp [lines, goesOn, whole]
  · simp [breaking?, goesOn]

/-- Readings that deliver a line each stand in front of the others. -/
theorem append_of_lines {front : List LineRead}
    (lines : ∀ read ∈ front, read.fault = none ∧ read.line ≠ []) :
    LineRead.lines (front ++ reads) = front.map LineRead.line ++ LineRead.lines reads ∧
      breaking? (front ++ reads) = breaking? reads ∧
      calls (front ++ reads) = front.flatMap LineRead.events ++ calls reads := by
  induction front with
  | nil => exact ⟨rfl, rfl, rfl⟩
  | cons read front ih =>
      have first := lines read List.mem_cons_self
      have onward := lines_cons_of_line (front ++ reads) first.1 first.2
      have later := ih (fun other member => lines other (List.mem_cons_of_mem _ member))
      have goesOn : read.goesOn = true := by simp [goesOn, first.1, first.2]
      refine ⟨?_, onward.2.trans later.2.1, ?_⟩
      · rw [List.cons_append, onward.1, later.1]
        rfl
      · rw [List.cons_append, calls, goesOn, if_pos rfl, later.2.2, List.flatMap_cons,
          List.append_assoc]

/-- Readings at which the relay goes on stand in front of others. -/
theorem append_of_goesOn {front : List LineRead} (goesOn : ∀ read ∈ front, read.goesOn = true) :
    lines (front ++ reads) = lines front ++ lines reads ∧
      calls (front ++ reads) = calls front ++ calls reads := by
  constructor
  · have all : front.takeWhile LineRead.goesOn = front := by
      simpa using @List.takeWhile_append_of_pos _ _ front [] goesOn
    unfold lines
    rw [List.takeWhile_append_of_pos goesOn, all, List.filter_append, List.map_append]
  · induction front with
    | nil => rfl
    | cons read front ih =>
        have others := ih (fun other member => goesOn other (List.mem_cons_of_mem _ member))
        have first := goesOn read List.mem_cons_self
        rw [List.cons_append, calls, calls, first, if_pos rfl, if_pos rfl, others,
          List.append_assoc]

/-- The same reading with calls that were made before. -/
def after (read : LineRead) (events : List Event) : LineRead :=
  { read with events := events ++ read.events }

/-- A reading that needed no call of the source. -/
def ofLine (line : Bytes) : LineRead := ⟨[], line, none⟩

/-- A reading makes no call of the writer. -/
def Quiet (read : LineRead) : Prop := ∀ event ∈ read.events, event.isWriter = false

end LineRead

/-! ## Reading -/

namespace Feed

/-- The readings that are made one after the other, up to the first at which the relay must end. -/
def readings (feed : Feed) : List LineRead :=
  if _onward : feed.next.1.goesOn then feed.next.1 :: readings feed.next.2 else [feed.next.1]
termination_by feed.left
decreasing_by exact feed.left_next_lt _onward

theorem readings_eq (feed : Feed) :
    feed.readings =
      if feed.next.1.goesOn then feed.next.1 :: feed.next.2.readings else [feed.next.1] := by
  rw [readings]
  split <;> rfl

theorem readings_of_goesOn {feed : Feed} (goesOn : feed.next.1.goesOn = true) :
    feed.readings = feed.next.1 :: feed.next.2.readings := by
  rw [readings_eq, if_pos goesOn]

theorem readings_of_last {feed : Feed} (last : feed.next.1.goesOn = false) :
    feed.readings = [feed.next.1] := by
  rw [readings_eq, if_neg (Bool.eq_false_iff.mp last)]

section Buffered

variable {ahead line rest : Bytes} (answers : List (Except Fault Bytes))

/-- A line that stands in the buffer is read without a call. -/
theorem next_of_cut (cut : cutLine? ahead = some (line, rest)) :
    (buffered ahead answers).next = (LineRead.ofLine line, buffered rest answers) := by
  simp only [next, cut]
  rfl

theorem next_of_uncut (uncut : cutLine? ahead = none) :
    (buffered ahead answers).next = readOn [] ahead answers := by
  simp only [next, uncut]

end Buffered

/-- One more call of the source is no call of the writer. -/
theorem isWriter_append_read {events : List Event}
    (quiet : ∀ event ∈ events, event.isWriter = false) (answer : Except Fault Nat) :
    ∀ event ∈ events ++ [.read answer], event.isWriter = false :=
  List.forall_mem_append.mpr ⟨quiet, List.forall_mem_singleton.mpr rfl⟩

theorem readOn_quiet (begun : Bytes) (answers : List (Except Fault Bytes)) {events : List Event}
    (quiet : ∀ event ∈ events, event.isWriter = false) : (readOn events begun answers).1.Quiet := by
  fun_induction readOn events begun answers with
  | case1 events begun => exact isWriter_append_read quiet (.ok 0)
  | case2 events begun answers fault interrupted calls ih =>
      exact ih (isWriter_append_read quiet (.error fault))
  | case3 events begun answers fault final calls =>
      exact isWriter_append_read quiet (.error fault)
  | case4 events begun answers calls => exact isWriter_append_read quiet (.ok 0)
  | case5 events begun answers bytes nonempty line ahead cut calls =>
      exact isWriter_append_read quiet (.ok bytes.length)
  | case6 events begun answers bytes nonempty uncut calls ih =>
      exact ih (isWriter_append_read quiet (.ok bytes.length))

theorem next_quiet (feed : Feed) : feed.next.1.Quiet := by
  cases feed with
  | buffered ahead answers =>
      cases cut : cutLine? ahead with
      | some parts =>
          rw [next_of_cut answers cut]
          exact List.forall_mem_nil _
      | none =>
          rw [next_of_uncut answers cut]
          exact readOn_quiet ahead answers (List.forall_mem_nil _)
  | scripted reads =>
      cases reads with
      | nil => exact List.forall_mem_singleton.mpr rfl
      | cons read reads => exact List.forall_mem_singleton.mpr rfl

/-- No reading makes a call of the writer. -/
theorem readings_quiet (feed : Feed) : ∀ read ∈ feed.readings, read.Quiet := by
  fun_induction readings feed with
  | case1 feed onward ih => exact List.forall_mem_cons.mpr ⟨feed.next_quiet, ih⟩
  | case2 feed last => exact List.forall_mem_singleton.mpr feed.next_quiet

end Feed

/-- The readings that a reader serves to the relay. -/
def Reader.lineReads (reader : Reader) : List LineRead := reader.feed.readings

theorem Reader.lineReads_quiet (reader : Reader) : ∀ read ∈ reader.lineReads, read.Quiet :=
  reader.feed.readings_quiet

end Stream
end AstLink
