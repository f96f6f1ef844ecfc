import AstLink.Proofs.Relay.Turns
import AstLink.Proofs.Stream.Handing

namespace AstLink
namespace Relay

/-!
Every byte of a relay is accounted for.

The readings alone decide which lines there are to be forwarded and whether reading ends with a
fault; the script of the writer alone decides with which fault writing or flushing would end.  The
relay ends with whichever comes first.  Everything forwarded before that is visible, one portion
for each line and in order, and of one line at most a part is left pending (`Accounted`).  The main
statement is `relay_accounts`, about every reader and every writer.
-/

open AstLink.Stream

/-- What has come of forwarding lines after `count` others, which are visible as `before`.
`broken` is the fault of the reading at which the lines end, if it has one. -/
inductive Accounted (lines : List Bytes) (broken : Option Fault) (sink : Sink) (count : Nat)
    (before : List Bytes) (report : Report) : Prop
  /-- The stream ended: all lines are visible. -/
  | complete (outcome : report.outcome = .ok (count + lines.length)) (whole : broken = none)
      (shown : Shown.run ⟨before, []⟩ report.events = ⟨before ++ lines, []⟩)
  /-- Reading ended with a fault: all lines are visible. -/
  | unread (fault : Fault) (outcome : report.outcome = .error fault)
      (first : broken = some fault)
      (shown : Shown.run ⟨before, []⟩ report.events = ⟨before ++ lines, []⟩)
  /-- Writing ended within a line: the lines before it are visible. -/
  | unwritten (fault : Fault) (done : List Bytes) (line : Bytes) (rest : List Bytes)
      (part : Bytes) (outcome : report.outcome = .error fault)
      (first : sink.writeFault? = some fault) (split : lines = done ++ line :: rest)
      (isPart : part <+: line) (shorter : part ≠ line)
      (shown : Shown.run ⟨before, []⟩ report.events = ⟨before ++ done, part⟩)
  /-- A flush failed: the lines before it are visible. -/
  | unflushed (fault : Fault) (done : List Bytes) (line : Bytes) (rest : List Bytes)
      (outcome : report.outcome = .error fault)
      (first : sink.flushFault? = some fault) (split : lines = done ++ line :: rest)
      (shown : Shown.run ⟨before, []⟩ report.events = ⟨before ++ done, line⟩)

namespace Accounted

variable {lines : List Bytes} {broken : Option Fault} {sink rest : Sink} {count : Nat}
  {before : List Bytes} {report : Report} {events : List Event}

/-- A reading that was broken off changes nothing. -/
theorem after_reading (accounted : Accounted lines broken sink count before report)
    (reading : ∀ event ∈ events, event.isWriter = false) :
    Accounted lines broken sink count before (report.after events) := by
  have unseen : Shown.run ⟨before, []⟩ (report.after events).events =
      Shown.run ⟨before, []⟩ report.events := by
    rw [Report.after, Shown.run_append, Shown.run_of_reading reading]
  cases accounted with
  | complete outcome whole shown => exact .complete outcome whole (unseen.trans shown)
  | unread fault outcome first shown => exact .unread fault outcome first (unseen.trans shown)
  | unwritten fault done line rest part outcome first split isPart shorter shown =>
      exact .unwritten fault done line rest part outcome first split isPart shorter
        (unseen.trans shown)
  | unflushed fault done line rest outcome first split shown =>
      exact .unflushed fault done line rest outcome first split (unseen.trans shown)

/-- A line that was forwarded stands in front of the others. -/
theorem after_line {line : Bytes}
    (accounted : Accounted lines broken rest (count + 1) (before ++ [line]) report)
    (writeFault : rest.writeFault? = sink.writeFault?)
    (flushFault : rest.flushFault? = sink.flushFault?)
    (forwarded : Shown.run ⟨before, []⟩ events = ⟨before ++ [line], []⟩) :
    Accounted (line :: lines) broken sink count before (report.after events) := by
  have onward : Shown.run ⟨before, []⟩ (report.after events).events =
      Shown.run ⟨before ++ [line], []⟩ report.events := by
    rw [Report.after, Shown.run_append, forwarded]
  have inFront (others : List Bytes) :
      before ++ [line] ++ others = before ++ line :: others :=
    (List.append_cons before line others).symm
  cases accounted with
  | complete outcome whole shown =>
      refine .complete ?_ whole ?_
      · rw [Report.after, outcome, List.length_cons, Nat.add_assoc, Nat.add_comm 1]
      · rw [onward, shown, inFront]
  | unread fault outcome first shown =>
      exact .unread fault outcome first (by rw [onward, shown, inFront])
  | unwritten fault done last later part outcome first split isPart shorter shown =>
      refine .unwritten fault (line :: done) last later part outcome (writeFault ▸ first) ?_ isPart
        shorter (by rw [onward, shown, inFront])
      rw [split, List.cons_append]
  | unflushed fault done last later outcome first split shown =>
      refine .unflushed fault (line :: done) last later outcome (flushFault ▸ first) ?_
        (by rw [onward, shown, inFront])
      rw [split, List.cons_append]

end Accounted

/-- The relay accounts for every line, whatever it has forwarded before. -/
theorem Forwards.accounted {count : Nat} {sink : Sink} {reads : List LineRead} {report : Report}
    (forwards : Forwards count sink reads report) (quiet : ∀ read ∈ reads, read.Quiet)
    (before : List Bytes) :
    Accounted (LineRead.lines reads) (LineRead.breaking? reads) sink count before report := by
  -- More is visible after each line.
  induction forwards generalizing before with
  | @interrupted _ _ read reads _ _ broken interrupted later ih =>
      have same := LineRead.lines_cons_of_interrupted reads broken interrupted
      have others := ih (fun other member => quiet other (List.mem_cons_of_mem _ member)) before
      rw [same.1, same.2]
      exact others.after_reading (quiet read List.mem_cons_self)
  | @unread _ _ read reads _ broken final =>
      have ending := LineRead.lines_cons_of_fault reads broken final
      rw [ending.1, ending.2]
      refine .unread _ rfl rfl ?_
      rw [Shown.run_of_reading (quiet read List.mem_cons_self), List.append_nil]
  | @ended _ _ read reads whole empty =>
      have ending := LineRead.lines_cons_of_end reads whole empty
      rw [ending.1, ending.2]
      refine .complete rfl rfl ?_
      rw [Shown.run_of_reading (quiet read List.mem_cons_self), List.append_nil]
  | @unforwarded _ sink read reads _ whole held failed =>
      have onward := LineRead.lines_cons_of_line reads whole held
      have unseen : Shown.run ⟨before, []⟩ read.events = ⟨before, []⟩ :=
        Shown.run_of_reading (quiet read List.mem_cons_self) _
      rw [onward.1, onward.2]
      cases sink.forward_forwarded read.line with
      | visible outcome shown writeFault flushFault =>
          rw [failed] at outcome
          cases outcome
      | unwritten reason part outcome first isPart shorter shown =>
          rw [failed] at outcome
          cases outcome
          refine .unwritten _ [] read.line _ part rfl first rfl isPart shorter ?_
          rw [Shown.run_append, unseen, shown, List.append_nil]
      | unflushed reason outcome first shown =>
          rw [failed] at outcome
          cases outcome
          refine .unflushed _ [] read.line _ rfl first rfl ?_
          rw [Shown.run_append, unseen, shown, List.append_nil]
  | @forwarded _ sink read reads _ whole held taken later ih =>
      have onward := LineRead.lines_cons_of_line reads whole held
      have unseen : Shown.run ⟨before, []⟩ read.events = ⟨before, []⟩ :=
        Shown.run_of_reading (quiet read List.mem_cons_self) _
      have others := ih (fun other member => quiet other (List.mem_cons_of_mem _ member))
        (before ++ [read.line])
      rw [onward.1, onward.2]
      cases sink.forward_forwarded read.line with
      | visible outcome shown writeFault flushFault =>
          refine others.after_line writeFault flushFault ?_
          rw [Shown.run_append, unseen, shown]
      | unwritten reason part outcome first isPart shorter shown =>
          rw [taken] at outcome
          cases outcome
      | unflushed reason outcome first shown =>
          rw [taken] at outcome
          cases outcome

/-- A relay whose reading ends with no fault, and whose writer never fails, makes all lines
visible. -/
theorem relay_complete (reader : Reader)
    (whole : LineRead.breaking? reader.lineReads = none) (sink : Sink)
    (neverFails : sink.NeverFails) :
    (relay reader sink).outcome = .ok (LineRead.lines reader.lineReads).length ∧
      Event.shown (relay reader sink).events = ⟨LineRead.lines reader.lineReads, []⟩ := by
  have accounted := (relay_forwards reader sink).accounted reader.lineReads_quiet []
  cases accounted with
  | complete outcome _ shown =>
      rw [Nat.zero_add] at outcome
      exact ⟨outcome, shown⟩
  | unread fault outcome first shown =>
      rw [whole] at first
      cases first
  | unwritten fault done line rest part outcome first split isPart shorter shown =>
      rw [neverFails.writeFault?] at first
      cases first
  | unflushed fault done line rest outcome first split shown =>
      rw [neverFails.flushFault?] at first
      cases first

end Relay

/-- No byte is lost, repeated or moved, however the relay ends.

`lines` are the lines that the readings deliver up to the end of the stream or the first fault of
reading that is none of those after which reading is started afresh.  A relay that succeeds has
forwarded all of them and made each visible by a flush of its own.  A relay that fails does so with
the first fault of reading, of writing or of flushing: it then has made visible all lines, or those
before a line of which a proper prefix, or all, is still pending. -/
theorem relay_accounts (reader : Stream.Reader) (sink : Stream.Sink) :
    let report := relay reader sink
    let lines := Stream.LineRead.lines reader.lineReads
    let accepted := Stream.Event.output report.events
    let flushes := report.events.countP Stream.Event.isFlush
    let shown := Stream.Event.shown report.events
    accepted <+: lines.flatten ∧
      match report.outcome with
      | .ok count =>
          count = lines.length ∧ accepted = lines.flatten ∧ flushes = lines.length ∧
            shown = ⟨lines, []⟩
      | .error fault =>
          (Stream.LineRead.breaking? reader.lineReads = some fault ∧
            accepted = lines.flatten ∧ flushes = lines.length ∧ shown = ⟨lines, []⟩) ∨
          (∃ done line rest part, lines = done ++ line :: rest ∧
            sink.writeFault? = some fault ∧ part <+: line ∧ part ≠ line ∧
            accepted = done.flatten ++ part ∧ flushes = done.length ∧ shown = ⟨done, part⟩) ∨
          (∃ done line rest, lines = done ++ line :: rest ∧
            sink.flushFault? = some fault ∧ accepted = (done ++ [line]).flatten ∧
            flushes = done.length ∧ shown = ⟨done, line⟩) := by
  intro report lines accepted flushes shown
  -- What is visible and what is pending give the bytes handed over and the number of flushes.
  have accepted_eq {done : List Bytes} {part : Bytes} (same : shown = ⟨done, part⟩) :
      accepted = done.flatten ++ part := by
    have all : accepted = shown.bytes := Stream.Event.output_eq_shown report.events
    rw [all, same]
    rfl
  have flushes_eq {done : List Bytes} {part : Bytes} (same : shown = ⟨done, part⟩) :
      flushes = done.length := by
    have all : flushes = shown.visible.length :=
      Stream.Event.countP_isFlush_eq_shown report.events
    rw [all, same]
  have within {done : List Bytes} {line part : Bytes} {rest : List Bytes}
      (split : lines = done ++ line :: rest) (isPart : part <+: line) :
      done.flatten ++ part <+: lines.flatten := by
    rw [split, List.flatten_append, List.flatten_cons]
    exact (List.prefix_append_right_inj done.flatten).mpr
      (isPart.trans (List.prefix_append line rest.flatten))
  have accounted := (Relay.relay_forwards reader sink).accounted reader.lineReads_quiet []
  cases accounted with
  | complete outcome whole seen =>
      have same : shown = ⟨lines, []⟩ := seen
      have total := (accepted_eq same).trans (List.append_nil _)
      refine ⟨total ▸ List.prefix_rfl, ?_⟩
      rw [show report.outcome = .ok (0 + lines.length) from outcome]
      exact ⟨Nat.zero_add _, total, flushes_eq same, same⟩
  | unread fault outcome first seen =>
      have same : shown = ⟨lines, []⟩ := seen
      have total := (accepted_eq same).trans (List.append_nil _)
      refine ⟨total ▸ List.prefix_rfl, ?_⟩
      rw [show report.outcome = .error fault from outcome]
      exact Or.inl ⟨first, total, flushes_eq same, same⟩
  | unwritten fault done line rest part outcome first split isPart shorter seen =>
      have same : shown = ⟨done, part⟩ := seen
      refine ⟨accepted_eq same ▸ within split isPart, ?_⟩
      rw [show report.outcome = .error fault from outcome]
      exact Or.inr (Or.inl ⟨done, line, rest, part, split, first, isPart, shorter,
        accepted_eq same, flushes_eq same, same⟩)
  | unflushed fault done line rest outcome first split seen =>
      have same : shown = ⟨done, line⟩ := seen
      refine ⟨accepted_eq same ▸ within split List.prefix_rfl, ?_⟩
      rw [show report.outcome = .error fault from outcome]
      have joined : accepted = (done ++ [line]).flatten := by
        rw [accepted_eq same, List.flatten_append, List.flatten_singleton]
      exact Or.inr (Or.inr ⟨done, line, rest, split, first, joined, flushes_eq same, same⟩)

end AstLink
