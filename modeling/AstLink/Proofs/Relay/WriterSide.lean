import AstLink.Proofs.Relay.Turns
import AstLink.Proofs.Stream.Delivery
import AstLink.Proofs.Stream.Handing

namespace AstLink
namespace Relay

/-!
A relay as its writer sees it.

The writer does not learn how its lines were read.  Its calls and the end of the relay are a
function of the lines alone, of the fault at which reading ends, if it has one, and of the writer's
own script (`Forwards.writerSide`).  For a source that is only ever interrupted the lines are those
of its signal, so here, too, the portions, the size of the buffer and the calls that are made again
do not matter, and now for every writer, also for one that fails (`relay_writerSide`).
-/

open AstLink.Stream

/-- The calls of the writer, and how the relay ended. -/
def Report.writerSide (report : Report) : Report :=
  { report with events := report.events.filter Event.isWriter }

/-- Hands lines to a writer one after the other, `count` lines having been handed over before.
`broken` is the fault with which reading ends after them, if it does. -/
def serve (broken : Option Fault) (count : Nat) (sink : Sink) : List Bytes -> Report
  | [] =>
      match broken with
      | some fault => ⟨[], .error fault⟩
      | none => ⟨[], .ok count⟩
  | line :: lines =>
      let handed := sink.forward line
      match handed.outcome with
      | .error fault => ⟨handed.events, .error fault⟩
      | .ok _ => (serve broken (count + 1) handed.sink lines).after handed.events

/-- Calls of the source in front are not to be seen by the writer. -/
theorem writerSide_after_reading (report : Report) {events : List Event}
    (reading : ∀ event ∈ events, event.isWriter = false) :
    (report.after events).writerSide = report.writerSide := by
  have unseen : events.filter Event.isWriter = [] := by
    rw [List.filter_eq_nil_iff]
    intro event member
    simp [reading event member]
  simp only [Report.writerSide, Report.after, List.filter_append, unseen, List.nil_append]

/-- Calls of the writer in front are all to be seen. -/
theorem writerSide_after_writing (report : Report) {events : List Event}
    (writing : ∀ event ∈ events, event.isWriter = true) :
    (report.after events).writerSide = report.writerSide.after events := by
  simp only [Report.writerSide, Report.after, List.filter_append,
    List.filter_eq_self.mpr writing]

/-- The relay does to its writer what handing over the lines of its readings does. -/
theorem Forwards.writerSide {count : Nat} {sink : Sink} {reads : List LineRead} {report : Report}
    (forwards : Forwards count sink reads report) (quiet : ∀ read ∈ reads, read.Quiet) :
    report.writerSide = serve (LineRead.breaking? reads) count sink (LineRead.lines reads) := by
  have ended {read : LineRead} (reading : read.Quiet) (outcome : Except Fault Nat) :
      Report.writerSide ⟨read.events, outcome⟩ = ⟨[], outcome⟩ := by
    have alone := writerSide_after_reading ⟨[], outcome⟩ reading
    rwa [Report.after, List.append_nil] at alone
  induction forwards with
  | @interrupted _ _ read reads _ report broken interrupted later ih =>
      have same := LineRead.lines_cons_of_interrupted reads broken interrupted
      have others := ih (fun other member => quiet other (List.mem_cons_of_mem _ member))
      rw [same.1, same.2, ← others]
      exact writerSide_after_reading report (quiet read List.mem_cons_self)
  | @unread _ _ read reads _ broken final =>
      have ending := LineRead.lines_cons_of_fault reads broken final
      rw [ending.1, ending.2]
      exact ended (quiet read List.mem_cons_self) _
  | @ended _ _ read reads whole empty =>
      have ending := LineRead.lines_cons_of_end reads whole empty
      rw [ending.1, ending.2]
      exact ended (quiet read List.mem_cons_self) _
  | @unforwarded _ sink read reads fault whole held failed =>
      have onward := LineRead.lines_cons_of_line reads whole held
      have seen := writerSide_after_reading
        ⟨(sink.forward read.line).events, .error fault⟩ (quiet read List.mem_cons_self)
      rw [onward.1, serve]
      simp only [failed]
      refine seen.trans ?_
      rw [Report.writerSide, List.filter_eq_self.mpr (sink.forward_isWriter read.line)]
  | @forwarded _ sink read reads report whole held taken later ih =>
      have onward := LineRead.lines_cons_of_line reads whole held
      have others := ih (fun other member => quiet other (List.mem_cons_of_mem _ member))
      have split : report.after (read.events ++ (sink.forward read.line).events) =
          (report.after (sink.forward read.line).events).after read.events := by
        simp only [Report.after, List.append_assoc]
      rw [onward.1, onward.2, serve]
      simp only [taken]
      rw [← others, split, writerSide_after_reading _ (quiet read List.mem_cons_self),
        writerSide_after_writing _ (sink.forward_isWriter read.line)]

/-- Of a relay whose source is only ever interrupted its writer sees the same for every source with
the same signal, whatever the size of the buffer. -/
theorem relay_writerSide {capacity other : Nat} (positive : 0 < capacity) (positive' : 0 < other)
    {steps others : List Source.Step}
    (passing : ∀ fault, .fault fault ∈ steps -> fault.isInterrupted = true)
    (passing' : ∀ fault, .fault fault ∈ others -> fault.isInterrupted = true)
    (same : Source.signal steps = Source.signal others) (sink : Sink) :
    (relay (.buffered capacity steps) sink).writerSide =
      (relay (.buffered other others) sink).writerSide := by
  have served := Reader.buffered_delivered positive steps passing
  have served' := Reader.buffered_delivered positive' others passing'
  rw [(relay_forwards _ sink).writerSide (Reader.lineReads_quiet _),
    (relay_forwards _ sink).writerSide (Reader.lineReads_quiet _), served.1, served.2.1, served'.1,
    served'.2.1, same]

end Relay
end AstLink
