import AstLink.Proofs.Relay.Accounting
import AstLink.Proofs.Stream.Ending

namespace AstLink
namespace Relay

/-!
Where a relay flushes.

A relay flushes when it has written one line, and it has flushed after each line before that.  So
the calls up to a flush come apart: those that made earlier lines visible (`Passes`), those of the
reading that delivered the line, and the writes of it (`AtFlush`, `Forwards.atFlush`).  Together
with where the readings of a source end this says what a flush makes visible, for writers that fail
as well.  The main statement is `relay_flushes_lines`.
-/

open AstLink.Stream

/-! ## The readings before a flush -/

/-- No call of the source is a flush. -/
theorem filter_isFlushing_of_quiet {read : LineRead} (quiet : read.Quiet) :
    read.events.filter Event.isFlushing = [] := by
  rw [List.filter_eq_nil_iff]
  intro event member flushing
  cases event with
  | flush answer => cases quiet _ member
  | read answer => cases flushing
  | readLine held answer => cases flushing
  | write offered answer => cases flushing

/-- Calls that take some readings and make each of their lines visible by a flush of its own. -/
structure Passes (front : List LineRead) (events : List Event) : Prop where
  goesOn : ∀ read ∈ front, read.goesOn = true
  received : Event.received events = Event.received (LineRead.calls front)
  flushing : events.filter Event.isFlushing =
    List.replicate (LineRead.lines front).length (.flush (.ok ()))
  shown : ∀ before, Shown.run ⟨before, []⟩ events = ⟨before ++ LineRead.lines front, []⟩

namespace Passes

theorem nil : Passes [] [] where
  goesOn _ impossible := nomatch impossible
  received := rfl
  flushing := rfl
  shown before := congrArg (Shown.mk · []) (List.append_nil before).symm

theorem append {front later : List LineRead} {events others : List Event}
    (passes : Passes front events) (passesLater : Passes later others) :
    Passes (front ++ later) (events ++ others) where
  goesOn read member := by
    rcases List.mem_append.mp member with here | there
    · exact passes.goesOn read here
    · exact passesLater.goesOn read there
  received := by
    rw [(LineRead.append_of_goesOn later passes.goesOn).2, Event.received_append,
      Event.received_append, passes.received, passesLater.received]
  flushing := by
    rw [(LineRead.append_of_goesOn later passes.goesOn).1, List.filter_append, passes.flushing,
      passesLater.flushing, List.length_append, List.replicate_append_replicate]
  shown before := by
    rw [(LineRead.append_of_goesOn later passes.goesOn).1, Shown.run_append, passes.shown,
      passesLater.shown, List.append_assoc]

/-- A reading that was broken off passes by its calls alone. -/
theorem interrupted {read : LineRead} (quiet : read.Quiet) {fault : Fault}
    (broken : read.fault = some fault) (interrupted : fault.isInterrupted = true) :
    Passes [read] read.events := by
  have goesOn : read.goesOn = true := by simp [LineRead.goesOn, broken, interrupted]
  have lines : LineRead.lines [read] = [] :=
    (LineRead.lines_cons_of_interrupted [] broken interrupted).1
  refine ⟨by simpa using goesOn, ?_, ?_, ?_⟩
  · rw [LineRead.calls, goesOn, if_pos rfl, LineRead.calls, List.append_nil]
  · rw [lines, filter_isFlushing_of_quiet quiet]
    rfl
  · intro before
    rw [Shown.run_of_reading quiet, lines, List.append_nil]

/-- A line passes when it is written and flushed. -/
theorem line {read : LineRead} (quiet : read.Quiet) (whole : read.fault = none)
    (held : read.line ≠ []) {writes : List Event} (writing : Event.OnlyWrites writes)
    (written : Event.output writes = read.line) :
    Passes [read] (read.events ++ (writes ++ [.flush (.ok ())])) := by
  have goesOn : read.goesOn = true := by simp [LineRead.goesOn, whole, held]
  have lines : LineRead.lines [read] = [read.line] := (LineRead.lines_cons_of_line [] whole held).1
  refine ⟨by simpa using goesOn, ?_, ?_, ?_⟩
  · rw [LineRead.calls, goesOn, if_pos rfl, LineRead.calls, List.append_nil,
      Event.received_append, Event.received_append, Event.received_of_isWriter writing.isWriter]
    rfl
  · rw [lines, List.filter_append, List.filter_append, filter_isFlushing_of_quiet quiet,
      writing.filter_isFlushing]
    rfl
  · intro before
    rw [Shown.run_append, Shown.run_of_reading quiet, Shown.run_append,
      Shown.run_of_unflushed writing.isFlush, written, lines]
    rfl

end Passes

/-- Where a relay of readings is when it flushes: some readings have passed, the line of the next
one has been written, and nothing else has been done. -/
structure AtFlush (reads : List LineRead) (earlier : List Event) (front : List LineRead)
    (read : LineRead) (back : List LineRead) (prior writes : List Event) : Prop where
  split : reads = front ++ read :: back
  passes : Passes front prior
  whole : read.fault = none
  held : read.line ≠ []
  calls : earlier = prior ++ (read.events ++ writes)
  writing : Event.OnlyWrites writes
  written : Event.output writes = read.line

/-- Readings that have passed before change nothing about that. -/
theorem AtFlush.after {reads front back : List LineRead} {read first : LineRead}
    {earlier prior writes events : List Event}
    (atFlush : AtFlush reads earlier front read back prior writes)
    (passes : Passes [first] events) :
    AtFlush (first :: reads) (events ++ earlier) (first :: front) read back (events ++ prior)
      writes where
  split := congrArg (List.cons first) atFlush.split
  passes := passes.append atFlush.passes
  whole := atFlush.whole
  held := atFlush.held
  calls := by rw [atFlush.calls, List.append_assoc]
  writing := atFlush.writing
  written := atFlush.written

/-- A flush that is made when a line has been written is the one for that line, or it comes after
it. -/
theorem atFlush_or_later {reads : List LineRead} {read : LineRead} (quiet : read.Quiet)
    (whole : read.fault = none) (held : read.line ≠ []) {writes : List Event}
    (writing : Event.OnlyWrites writes) (written : Event.output writes = read.line)
    {earlier : List Event} {answer flushed : Except Fault Unit} (more : List Event)
    (isPrefix : earlier ++ [.flush answer] <+:
      read.events ++ (writes ++ [.flush flushed]) ++ more) :
    AtFlush (read :: reads) earlier [] read reads [] writes ∨
      ∃ rest, earlier = read.events ++ (writes ++ [.flush flushed]) ++ rest ∧
        rest ++ [.flush answer] <+: more := by
  have unflushing : .flush answer ∉ read.events ++ writes := by
    intro member
    rcases List.mem_append.mp member with here | there
    · cases quiet _ here
    · exact writing.flush_notMem answer there
  rw [← List.append_assoc read.events, List.append_assoc] at isPrefix
  rcases Lists.exists_append_of_concat_prefix _ unflushing isPrefix with ⟨rest, equal, later⟩
  cases rest with
  | nil =>
      rw [List.append_nil] at equal
      exact Or.inl ⟨rfl, .nil, whole, held, equal, writing, written⟩
  | cons event rest =>
      have parts := List.cons_prefix_cons.mp later
      refine Or.inr ⟨rest, ?_, parts.2⟩
      rw [equal, parts.1]
      simp only [List.append_assoc, List.cons_append, List.nil_append]

/-- Whenever a relay flushes, it is at such a place. -/
theorem Forwards.atFlush {count : Nat} {sink : Sink} {reads : List LineRead} {report : Report}
    (forwards : Forwards count sink reads report) (quiet : ∀ read ∈ reads, read.Quiet)
    {earlier : List Event} {answer : Except Fault Unit}
    (isPrefix : earlier ++ [.flush answer] <+: report.events) :
    ∃ front read back prior writes, AtFlush reads earlier front read back prior writes := by
  have unflushed {read : LineRead} (quiet : read.Quiet) : .flush answer ∉ read.events :=
    fun member => nomatch quiet _ member
  have ends {earlier events : List Event} (within : earlier ++ [.flush answer] <+: events) :
      .flush answer ∈ events :=
    within.subset (List.mem_append_right _ List.mem_cons_self)
  -- What has passed is cut off in front of the calls, so the calls up to the flush change as well.
  induction forwards generalizing earlier with
  | @interrupted _ _ read reads _ report broken interrupted later ih =>
      have reading := quiet read List.mem_cons_self
      rcases Lists.exists_append_of_concat_prefix _ (unflushed reading) isPrefix with
        ⟨rest, equal, onward⟩
      rcases ih (fun other member => quiet other (List.mem_cons_of_mem _ member)) onward with
        ⟨front, next, back, prior, writes, atFlush⟩
      exact ⟨_, _, _, _, _, equal ▸ atFlush.after (.interrupted reading broken interrupted)⟩
  | @unread _ _ read reads _ broken final =>
      exact absurd (ends isPrefix) (unflushed (quiet read List.mem_cons_self))
  | @ended _ _ read reads whole empty =>
      exact absurd (ends isPrefix) (unflushed (quiet read List.mem_cons_self))
  | @unforwarded _ sink read reads _ whole held failed =>
      have reading := quiet read List.mem_cons_self
      rcases sink.forward_writes read.line with ⟨writes, last, calls, writing, ended⟩
      rw [calls] at isPrefix
      rcases ended with ⟨rfl, _⟩ | ⟨rfl, written⟩
      · rw [List.append_nil] at isPrefix
        rcases List.mem_append.mp (ends isPrefix) with here | there
        · exact absurd here (unflushed reading)
        · exact absurd there (writing.flush_notMem answer)
      · rw [← List.append_nil (read.events ++ _)] at isPrefix
        rcases atFlush_or_later reading whole held writing written [] isPrefix with
          here | ⟨rest, _, onward⟩
        · exact ⟨_, _, _, _, _, here⟩
        · exact absurd (List.prefix_nil.mp onward) (by simp)
  | @forwarded _ sink read reads report whole held taken later ih =>
      have reading := quiet read List.mem_cons_self
      rcases sink.forward_writes read.line with ⟨writes, last, calls, writing, ended⟩
      rw [taken] at ended
      rw [Report.after, calls] at isPrefix
      rcases ended with ⟨_, fault, failed⟩ | ⟨rfl, written⟩
      · cases failed
      · rcases atFlush_or_later reading whole held writing written report.events isPrefix with
          here | ⟨rest, equal, onward⟩
        · exact ⟨_, _, _, _, _, here⟩
        · rcases ih (fun other member => quiet other (List.mem_cons_of_mem _ member)) onward with
            ⟨front, next, back, prior, others, atFlush⟩
          exact ⟨_, _, _, _, _, equal ▸ atFlush.after (.line reading whole held writing written)⟩

end Relay

open AstLink.Stream

/-- What a relay has done when it flushes.  All flushes before were successful, and `done` is what
was accepted before each of them, since the one before it; `portion` was accepted since the last. -/
structure Relay.FlushesLine (lines done : List Bytes) (portion : Bytes) (earlier : List Event) :
    Prop where
  flushing : earlier.filter Event.isFlushing = List.replicate done.length (.flush (.ok ()))
  shown : Event.shown earlier = ⟨done, portion⟩
  next : done ++ [portion] <+: lines
  nonempty : portion ≠ []
  ended : IsLine portion ∨ Bytes.newline ∉ portion ∧
    ∃ before writes, earlier = before ++ .read (.ok 0) :: writes ∧
      (∀ event ∈ writes, event.isWriter = true) ∧
      Event.received before = (Event.output earlier).length

/-- So it is whenever a relay is at a flush. -/
theorem Relay.AtFlush.flushesLine {reads front back : List LineRead} {read : LineRead}
    {earlier prior writes : List Event}
    (atFlush : AtFlush reads earlier front read back prior writes)
    (quiet : ∀ read ∈ reads, read.Quiet) (settled : Settled [] [] reads) :
    FlushesLine (LineRead.lines reads) (LineRead.lines front) read.line earlier := by
  have reading : read.Quiet := quiet read (atFlush.split ▸ by simp)
  have shown : Event.shown earlier = ⟨LineRead.lines front, read.line⟩ := by
    rw [Event.shown, atFlush.calls, Shown.run_append, atFlush.passes.shown, Shown.run_append,
      Shown.run_of_reading reading, Shown.run_of_unflushed atFlush.writing.isFlush, atFlush.written]
    rfl
  refine ⟨?_, shown, ?_, atFlush.held, ?_⟩
  · rw [atFlush.calls, List.filter_append, List.filter_append, atFlush.passes.flushing,
      filter_isFlushing_of_quiet reading, atFlush.writing.filter_isFlushing, List.append_nil,
      List.append_nil]
  · have onward := LineRead.lines_cons_of_line back atFlush.whole atFlush.held
    rw [atFlush.split, (LineRead.append_of_goesOn _ atFlush.passes.goesOn).1, onward.1]
    exact ⟨LineRead.lines back, by simp⟩
  · refine (settled front read back atFlush.split atFlush.whole atFlush.held).imp_right ?_
    rintro ⟨lacking, before, ended, count⟩
    refine ⟨lacking, prior ++ before, writes, ?_, atFlush.writing.isWriter, ?_⟩
    · rw [atFlush.calls, ended]
      simp only [List.append_assoc, List.cons_append, List.nil_append]
    · have total : Event.output earlier = (LineRead.lines front).flatten ++ read.line := by
        rw [Event.output_eq_shown, shown]
        rfl
      rw [total, List.length_append, Event.received_append, atFlush.passes.received,
        ← Event.received_append]
      simpa [Event.received] using count

/-- Flushes fall on the ends of lines, whatever becomes of the writer.

The source hands on bytes in any portions and is interrupted at times.  Whenever the relay flushes,
it has handed over exactly one more of the lines of the signal since it flushed before, and this
line has a byte; it ends with its only newline, or else the source has just given no byte, after all
that was handed over.  There are as many successful flushes as lines forwarded: all of them if the
relay succeeds, and if it fails those before a line that is not, or not wholly, visible. -/
theorem relay_flushes_lines {capacity : Nat} (positive : 0 < capacity) (steps : List Source.Step)
    (passing : ∀ fault, .fault fault ∈ steps -> fault.isInterrupted = true) (sink : Sink) :
    let lines := (Source.signal steps).lines
    let report := relay (.buffered capacity steps) sink
    let flushes := report.events.countP Event.isFlush
    lines.flatten <+: Source.bytes steps ∧
      (∀ earlier answer, earlier ++ [.flush answer] <+: report.events ->
        ∃ done portion, Relay.FlushesLine lines done portion earlier) ∧
      match report.outcome with
      | .ok count => flushes = count ∧ Event.shown report.events = ⟨lines, []⟩
      | .error _ =>
          ∃ done line rest part, lines = done ++ line :: rest ∧ flushes = done.length ∧
            Event.shown report.events = ⟨done, part⟩ ∧ part <+: line := by
  intro lines report flushes
  have quiet := Reader.lineReads_quiet (.buffered capacity steps)
  have served := Reader.buffered_delivered positive steps passing
  have settled : Settled [] [] (Reader.buffered capacity steps).lineReads := by
    rw [Reader.lineReads_buffered]
    exact lineReadsFrom_settled _ [] [] List.not_mem_nil
  have forwards := Relay.relay_forwards (.buffered capacity steps) sink
  have accounted := forwards.accounted quiet []
  rw [served.1, served.2.1] at accounted
  have flushes_eq {done : List Bytes} {part : Bytes}
      (same : Event.shown report.events = ⟨done, part⟩) : flushes = done.length := by
    have all : flushes = (Event.shown report.events).visible.length :=
      Event.countP_isFlush_eq_shown report.events
    rw [all, same]
  refine ⟨Source.flatten_lines_prefix steps, ?_, ?_⟩
  · intro earlier answer isPrefix
    rcases forwards.atFlush quiet isPrefix with ⟨_, _, _, _, _, atFlush⟩
    exact ⟨_, _, served.2.1 ▸ atFlush.flushesLine quiet settled⟩
  · cases accounted with
    | complete outcome _ shown =>
        rw [show report.outcome = .ok (0 + lines.length) from outcome, Nat.zero_add]
        exact ⟨flushes_eq shown, shown⟩
    | unread fault _ first _ => cases first
    | unwritten fault done line rest part outcome _ split isPart _ shown =>
        rw [show report.outcome = .error fault from outcome]
        exact ⟨done, line, rest, part, split, flushes_eq shown, shown, isPart⟩
    | unflushed fault done line rest outcome _ split shown =>
        rw [show report.outcome = .error fault from outcome]
        exact ⟨done, line, rest, line, split, flushes_eq shown, shown, List.prefix_rfl⟩

/-- A line that ends at a mark and whose flush fails.  A line before it was flushed, and one after
it is never read. -/
theorem relay_flushes_lines_failing :
    let interrupted := Fault.ofKind .interrupted
    let broken := Fault.ofKind .brokenPipe
    let steps : List Source.Step := [.data [0x61, 0x0a, 0x62], .fault interrupted, .data [],
      .data [0x63]]
    let report := relay (.buffered 2 steps) ⟨[.atMost 1], [none, some broken]⟩
    let earlier : List Event := [.read (.ok 2), .write [0x61, 0x0a] (.ok 1), .write [0x0a] (.ok 1),
      .flush (.ok ()), .read (.ok 1), .read (.error interrupted), .read (.ok 0),
      .write [0x62] (.ok 1)]
    report.outcome = .error broken ∧ report.events = earlier ++ [.flush (.error broken)] ∧
      (∃ done portion,
        Relay.FlushesLine (Source.signal steps).lines done portion earlier) ∧
      report.events.countP Event.isFlush = 1 := by
  intro interrupted broken steps report earlier
  have passing : ∀ fault, .fault fault ∈ steps -> fault.isInterrupted = true := by
    simp [steps, interrupted, Fault.ofKind, Fault.isInterrupted]
  have events : report.events = earlier ++ [.flush (.error broken)] := by
    with_unfolding_all rfl
  have falls := relay_flushes_lines (show 0 < 2 by decide) steps passing
    ⟨[.atMost 1], [none, some broken]⟩
  refine ⟨by decide +kernel, events, ?_, ?_⟩
  · exact falls.2.1 earlier (.error broken) (events ▸ List.prefix_rfl)
  · rw [events]
    rfl

end AstLink
