import AstLink.Proofs.Relay.Accounting
import AstLink.Proofs.Stream.Delivery

namespace AstLink
namespace Relay

/-!
A relay between streams that only interrupt loses nothing, and depends on the signal alone.

Its source may hand on bytes in portions of any size, end its stream for one call, and have calls
broken off; its writer may take as few bytes at a time as it likes and break off writes.  What
arrives is then a function of the signal: the portions, the size of the buffer, the calls that are
made again and the sizes of the writes do not matter.  The main statement is `relay_lossless`.
-/

open AstLink.Stream

/-- Of calls of the source and calls of the writer those of the source are left. -/
theorem filter_reading {reading writing : List Event}
    (quiet : ∀ event ∈ reading, event.isWriter = false)
    (writes : ∀ event ∈ writing, event.isWriter = true) :
    (reading ++ writing).filter (fun event => !event.isWriter) = reading := by
  have kept : reading.filter (fun event => !event.isWriter) = reading :=
    List.filter_eq_self.mpr fun event member => by simp [quiet event member]
  have dropped : writing.filter (fun event => !event.isWriter) = [] :=
    List.filter_eq_nil_iff.mpr fun event member => by simp [writes event member]
  rw [List.filter_append, kept, dropped, List.append_nil]

/-- The calls of the source that a relay makes are those for its readings, if the writer never
fails. -/
theorem Forwards.calls {count : Nat} {sink : Sink} {reads : List LineRead} {report : Report}
    (forwards : Forwards count sink reads report) (quiet : ∀ read ∈ reads, read.Quiet)
    (neverFails : sink.NeverFails) :
    report.events.filter (fun event => !event.isWriter) = LineRead.calls reads := by
  have own {read : LineRead} {reads : List LineRead}
      (quiet : ∀ other ∈ read :: reads, LineRead.Quiet other) :
      read.events.filter (fun event => !event.isWriter) = read.events := by
    have alone := filter_reading (quiet read List.mem_cons_self) (List.forall_mem_nil _)
    rwa [List.append_nil] at alone
  induction forwards with
  | @interrupted _ _ read reads _ _ broken interrupted later ih =>
      have goesOn : read.goesOn = true := by simp [LineRead.goesOn, broken, interrupted]
      have others := ih (fun other member => quiet other (List.mem_cons_of_mem _ member)) neverFails
      rw [LineRead.calls, goesOn, if_pos rfl, ← others, Report.after, List.filter_append, own quiet]
  | @unread _ _ read reads _ broken final =>
      have last : read.goesOn = false := by simp [LineRead.goesOn, broken, final]
      rw [LineRead.calls, last, if_neg Bool.false_ne_true, own quiet, List.append_nil]
  | @ended _ _ read reads whole empty =>
      have last : read.goesOn = false := by simp [LineRead.goesOn, whole, empty]
      rw [LineRead.calls, last, if_neg Bool.false_ne_true, own quiet, List.append_nil]
  | @unforwarded _ sink read reads _ whole held failed =>
      rw [(neverFails.forward read.line).1] at failed
      cases failed
  | @forwarded _ sink read reads _ whole held taken later ih =>
      have goesOn : read.goesOn = true := by simp [LineRead.goesOn, whole, held]
      have others := ih (fun other member => quiet other (List.mem_cons_of_mem _ member))
        (neverFails.forward read.line).2.2
      rw [LineRead.calls, goesOn, if_pos rfl, ← others, Report.after, List.filter_append,
        filter_reading (quiet read List.mem_cons_self) (sink.forward_isWriter read.line)]

end Relay

open AstLink.Stream

/-- A relay whose source and writer are only ever interrupted forwards everything that is heard
before the stop of the signal, line by line, and reads nothing beyond the mark that stops it. -/
theorem relay_lossless {capacity : Nat} (positive : 0 < capacity) (steps : List Source.Step)
    (passing : ∀ fault, .fault fault ∈ steps -> fault.isInterrupted = true)
    (sink : Sink) (neverFails : sink.NeverFails) :
    let signal := Source.signal steps
    let report := relay (.buffered capacity steps) sink
    report.outcome = .ok signal.lines.length ∧
      Event.output report.events = signal.data ∧
      Event.shown report.events = ⟨signal.lines, []⟩ ∧
      (∃ before, before ++ [.data []] <+: steps ++ [.data [], .data []] ∧
        Source.tokens before = signal.heard ∧
        report.events.filter (fun event => !event.isWriter) =
          (Source.answers capacity (before ++ [.data []])).map Source.event) ∧
      (.data [] ∉ steps ->
        report.outcome = .ok (lineCount (Source.bytes steps)) ∧
          Event.output report.events = Source.bytes steps) := by
  intro signal report
  have quiet := Reader.lineReads_quiet (.buffered capacity steps)
  have served := Reader.buffered_delivered positive steps passing
  have forwards := Relay.relay_forwards (.buffered capacity steps) sink
  have calls := forwards.calls quiet neverFails
  have complete := Relay.relay_complete _ served.1 sink neverFails
  rw [served.2.1] at complete
  have output : Event.output report.events = signal.data := by
    rw [Event.output_eq_shown, complete.2]
    exact (List.append_nil _).trans (Token.flatten_lines signal.heard)
  refine ⟨complete.1, output, complete.2, ?_, fun unmarked => ?_⟩
  · rcases served.2.2 with ⟨before, isPrefix, heard, called⟩
    exact ⟨before, isPrefix, heard, calls.trans called⟩
  · have count := Source.length_lines_of_unmarked steps unmarked
    exact ⟨complete.1.trans (congrArg Except.ok count),
      output.trans (Source.data_signal_of_unmarked steps unmarked)⟩

/-- A line that holds a mark and a newline, cut by a small buffer and interrupted on both sides.
What follows the second mark is not read. -/
theorem relay_lossless_interrupted :
    let interrupted := Fault.ofKind .interrupted
    let steps : List Source.Step := [.data [0x61, 0x0a, 0x62], .fault interrupted, .data [0x63],
      .data [], .data [0x0a], .data [], .data [0x64]]
    let report := relay (.buffered 2 steps) ⟨[.atMost 1, .fault interrupted], [none]⟩
    report.outcome = .ok 3 ∧
      Event.shown report.events = ⟨[[0x61, 0x0a], [0x62, 0x63], [0x0a]], []⟩ := by
  intro interrupted steps report
  have passing : ∀ fault, .fault fault ∈ steps -> fault.isInterrupted = true := by
    simp [steps, interrupted, Fault.ofKind, Fault.isInterrupted]
  have lossless := relay_lossless (show 0 < 2 by decide) steps passing
    ⟨[.atMost 1, .fault interrupted], [none]⟩ (by decide)
  have lines : (Source.signal steps).lines = [[0x61, 0x0a], [0x62, 0x63], [0x0a]] := by
    rw [Source.lines_signal]
    rfl
  constructor
  · exact lossless.1.trans (congrArg (fun lines => Except.ok lines.length) lines)
  · exact lossless.2.2.1.trans (congrArg (Shown.mk · []) lines)

end AstLink
