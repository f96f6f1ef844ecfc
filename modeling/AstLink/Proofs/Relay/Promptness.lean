import AstLink.Proofs.Relay.Turns
import AstLink.Proofs.Stream.Delivery
import AstLink.Proofs.Stream.Handing

namespace AstLink
namespace Relay

/-!
No complete line waits.

A relay of a byte source is followed call by call.  Each call of the source is answered with bytes,
and before the next call is made the lines which these bytes complete are handed over and flushed,
one after the other (`Forwards.of_data`).  So whenever the relay turns to its source again, every
line that has been completed is visible and nothing is pending, and the same holds where reading
ends with a fault: only a line that was never completed is lost.  The main statement is
`relay_until_fault`.
-/

open AstLink.Stream

/-! ## Call by call -/

section Call

variable {count : Nat} {sink : Sink} {report : Report}

/-- Calls that were made for a line before the first reading stand in front of its own. -/
theorem Forwards.of_after {events : List Event} {read : LineRead} {reads : List LineRead}
    (forwards : Forwards count sink (read.after events :: reads) report) :
    ∃ own, Forwards count sink (read :: reads) own ∧ report = own.after events := by
  cases forwards with
  | interrupted broken interrupted later =>
      exact ⟨_, .interrupted broken interrupted later,
        by simp only [Report.after, LineRead.after, List.append_assoc]⟩
  | unread broken final => exact ⟨_, .unread broken final, rfl⟩
  | ended whole empty => exact ⟨_, .ended whole empty, rfl⟩
  | unforwarded whole held failed =>
      exact ⟨_, .unforwarded whole held failed,
        by simp only [Report.after, LineRead.after, List.append_assoc]⟩
  | forwarded whole held taken later =>
      exact ⟨_, .forwarded whole held taken later,
        by simp only [Report.after, LineRead.after, List.append_assoc]⟩

variable {begun : Bytes} {answers : List (Except Fault Bytes)}

/-- The calls that were made before for the line begun come first in the report. -/
theorem Forwards.of_events {events : List Event}
    (forwards : Forwards count sink (lineReadsFrom events begun answers) report) :
    ∃ own, Forwards count sink (lineReadsFrom [] begun answers) own ∧
      report = own.after events := by
  rcases exists_lineReadsFrom begun answers with ⟨read, reads, serves⟩
  rw [serves] at forwards ⊢
  exact forwards.of_after

/-- A call that is broken off is made again, and nothing else comes of it. -/
theorem Forwards.of_interrupted {fault : Fault} (interrupted : fault.isInterrupted = true)
    (forwards : Forwards count sink (lineReadsFrom [] begun (.error fault :: answers)) report) :
    ∃ own, Forwards count sink (lineReadsFrom [] begun answers) own ∧
      report = own.after [Source.event (.error fault)] := by
  rw [lineReadsFrom_interrupted interrupted] at forwards
  exact forwards.of_events

/-- A call that fails for good is the last. -/
theorem Forwards.of_fault {fault : Fault} (final : fault.isInterrupted = false)
    (forwards : Forwards count sink (lineReadsFrom [] begun (.error fault :: answers)) report) :
    report = ⟨[Source.event (.error fault)], .error fault⟩ := by
  rw [lineReadsFrom_fault final] at forwards
  cases forwards with
  | interrupted broken interrupted later =>
      cases broken
      rw [final] at interrupted
      cases interrupted
  | unread broken _ =>
      cases broken
      rfl
  | ended whole empty => cases whole
  | unforwarded whole held failed => cases whole
  | forwarded whole held taken later => cases whole

/-- A call that brings bytes is followed by the lines that they complete, and only then by further
calls. -/
theorem Forwards.of_data {bytes : Bytes} (nonempty : bytes ≠ [])
    (forwards : Forwards count sink (lineReadsFrom [] begun (.ok bytes :: answers)) report) :
    ∃ own, Forwards count sink ((finished begun bytes).map LineRead.ofLine ++
        lineReadsFrom [] (carried begun bytes) answers) own ∧
      report = own.after [Source.event (.ok bytes)] := by
  rw [lineReadsFrom_data nonempty] at forwards
  unfold finished
  cases cut : (cutLines bytes).1 with
  | nil =>
      rw [cut, if_pos rfl] at forwards
      exact forwards.of_events
  | cons line lines =>
      rw [cut, if_neg (List.cons_ne_nil line lines)] at forwards
      exact Forwards.of_after
        (show Forwards count sink ((LineRead.ofLine (begun ++ line)).after _ :: _) report from
          forwards)

end Call

/-! ## Lines that a writer takes -/

/-- Calls of the writer that make some lines visible, each by a flush of its own. -/
structure Serves (lines : List Bytes) (events : List Event) : Prop where
  writing : ∀ event ∈ events, event.isWriter = true
  flushing : events.filter Event.isFlushing = List.replicate lines.length (.flush (.ok ()))
  shown : ∀ before, Shown.run ⟨before, []⟩ events = ⟨before ++ lines, []⟩

theorem Serves.nil : Serves [] [] where
  writing _ impossible := nomatch impossible
  flushing := rfl
  shown before := congrArg (Shown.mk · []) (List.append_nil before).symm

theorem Serves.cons {line : Bytes} {lines : List Bytes} {first events : List Event}
    (serves : Serves lines events) (writing : ∀ event ∈ first, event.isWriter = true)
    (flushing : first.filter Event.isFlushing = [.flush (.ok ())])
    (shown : ∀ before, Shown.run ⟨before, []⟩ first = ⟨before ++ [line], []⟩) :
    Serves (line :: lines) (first ++ events) where
  writing event member := by
    rcases List.mem_append.mp member with here | later
    · exact writing event here
    · exact serves.writing event later
  flushing := by
    rw [List.filter_append, flushing, serves.flushing, List.length_cons, List.replicate_succ]
    rfl
  shown before := by
    rw [Shown.run_append, shown, serves.shown, List.append_assoc, List.singleton_append]

/-- A writer that never fails takes all lines that are served, and does not fail later, either. -/
theorem Forwards.of_lines {lines : List Bytes} (nonempty : ∀ line ∈ lines, line ≠ [])
    {reads : List LineRead} {count : Nat} {sink : Sink} {report : Report}
    (forwards : Forwards count sink (lines.map LineRead.ofLine ++ reads) report)
    (neverFails : sink.NeverFails) :
    ∃ written rest later, Serves lines written ∧ Sink.NeverFails rest ∧
      Forwards (count + lines.length) rest reads later ∧ report = later.after written := by
  induction lines generalizing count sink report with
  | nil => exact ⟨[], sink, report, .nil, neverFails, forwards, rfl⟩
  | cons line lines ih =>
      have others := fun line member => nonempty line (List.mem_cons_of_mem _ member)
      rcases neverFails.forward line with ⟨outcome, shown, remains⟩
      cases forwards with
      | interrupted broken _ _ => cases broken
      | unread broken _ => cases broken
      | ended _ empty => exact absurd empty (nonempty line List.mem_cons_self)
      | unforwarded whole held failed =>
          have impossible := outcome.symm.trans failed
          cases impossible
      | forwarded whole held taken later =>
          rcases ih others later remains with ⟨written, rest, last, serves, kept, onward, rfl⟩
          refine ⟨_, rest, last, serves.cons (sink.forward_isWriter line)
            (sink.forward_flushes line outcome) shown, kept, ?_, ?_⟩
          · rwa [List.length_cons, Nat.add_comm lines.length, ← Nat.add_assoc]
          · simp only [Report.after, LineRead.ofLine, List.nil_append, List.append_assoc]

/-! ## Up to a fault of the source -/

/-- Whether the next call, if there is one, is not the writer's. -/
def TurnsToSource (later : List Event) : Prop :=
  ∀ event, later.head? = some event -> event.isWriter = false

theorem TurnsToSource.nil : TurnsToSource [] := by
  intro event first
  cases first

theorem TurnsToSource.read (answer : Except Fault Nat) (later : List Event) :
    TurnsToSource (.read answer :: later) := by
  intro event first
  cases first
  rfl

/-- Where a relay turns to its source, the writer's calls that come first have all been made. -/
theorem TurnsToSource.split {later : List Event} (turns : TurnsToSource later)
    {written others earlier : List Event} (writing : ∀ event ∈ written, event.isWriter = true)
    (whole : written ++ others = earlier ++ later) :
    ∃ rest, earlier = written ++ rest ∧ others = rest ++ later := by
  rcases List.append_eq_append_iff.mp whole with ⟨rest, equal, onward⟩ | ⟨kept, equal, onward⟩
  · exact ⟨rest, equal, onward⟩
  · cases kept with
    | nil =>
        rw [List.append_nil] at equal
        exact ⟨[], by rw [List.append_nil, equal], onward.symm⟩
    | cons first kept =>
        have reading := turns first (by rw [onward]; rfl)
        rw [writing first (by rw [equal]; simp)] at reading
        cases reading

/-- What a relay does that gets some answers and then a fault, with a line begun before them.
Wherever it turns to its source, and at its end, the lines finished so far are visible. -/
structure Prompt (begun : Bytes) (answers : List (Except Fault Bytes)) (fault : Fault)
    (report : Report) : Prop where
  outcome : report.outcome = .error fault
  calls : report.events.filter (fun event => !event.isWriter) =
    (answers ++ [Except.error fault]).map Source.event
  flushing : report.events.filter Event.isFlushing =
    List.replicate (finished begun (brought answers)).length (.flush (.ok ()))
  shown : ∀ earlier later, report.events = earlier ++ later -> TurnsToSource later ->
    ∀ before, Shown.run ⟨before, []⟩ earlier =
      ⟨before ++ finished begun ((brought answers).take (Event.received earlier)), []⟩

/-- One more answer in front, and the lines that its bytes finish. -/
theorem Prompt.cons {answer : Except Fault Bytes} {bytes : Bytes} {fault : Fault} {report : Report}
    {written : List Event} (prompt : Prompt (carried begun bytes) answers fault report)
    (serves : Serves (finished begun bytes) written)
    (brings : ∀ answers, brought (answer :: answers) = bytes ++ brought answers) :
    Prompt begun (answer :: answers) fault
      ((report.after written).after [Source.event answer]) where
  outcome := prompt.outcome
  calls := by
    have unseen : written.filter (fun event => !event.isWriter) = [] := by
      rw [List.filter_eq_nil_iff]
      intro event member
      simp [serves.writing event member]
    have own : [Source.event answer].filter (fun event => !event.isWriter) =
        [Source.event answer] := rfl
    simp only [Report.after, List.filter_append, unseen, own, prompt.calls]
    rfl
  flushing := by
    have own : [Source.event answer].filter Event.isFlushing = [] := rfl
    simp only [Report.after, List.filter_append, own, serves.flushing, prompt.flushing, brings,
      finished_append, List.length_append, List.replicate_append_replicate, List.nil_append]
  shown := by
    intro earlier later split turns before
    have unseen : Shown.run ⟨before, []⟩ [Source.event answer] = ⟨before, []⟩ :=
      Shown.run_of_reading (fun event member => List.mem_singleton.mp member ▸ rfl) _
    have count : Event.received [Source.event answer] = bytes.length := by
      have own := Event.received_map_event [answer]
      rwa [brings, brought, List.append_nil] at own
    cases earlier with
    | nil => simp [Event.received]
    | cons event earlier =>
        have parts : Source.event answer = event ∧
            written ++ report.events = earlier ++ later := List.cons.inj split
        rcases turns.split serves.writing parts.2 with ⟨rest, equal, others⟩
        have total : Event.received (Source.event answer :: (written ++ rest)) =
            bytes.length + Event.received rest := by
          have sum := Event.received_append [Source.event answer] (written ++ rest)
          rw [Event.received_append written, Event.received_of_isWriter serves.writing, count,
            Nat.zero_add] at sum
          exact sum
        have run := Shown.run_append ⟨before, []⟩ [Source.event answer] (written ++ rest)
        rw [unseen, Shown.run_append _ written, serves.shown,
          prompt.shown rest later others turns] at run
        rw [← parts.1, equal, total, brings, List.take_length_add_append, finished_append,
          ← List.append_assoc]
        exact run

/-- Whatever the answers before it, as long as they bring bytes or are broken off, a relay up to a
fault is prompt. -/
theorem Forwards.prompt {answers more : List (Except Fault Bytes)}
    (plain : ∀ answer ∈ answers, answer ≠ .ok [])
    (passing : ∀ fault, Except.error fault ∈ answers -> fault.isInterrupted = true)
    {fault : Fault} (final : fault.isInterrupted = false) {begun : Bytes} {count : Nat}
    {sink : Sink} {report : Report}
    (forwards : Forwards count sink
      (lineReadsFrom [] begun (answers ++ .error fault :: more)) report)
    (neverFails : sink.NeverFails) :
    Prompt begun answers fault report := by
  induction answers generalizing begun count sink report with
  | nil =>
      cases forwards.of_fault final
      refine ⟨rfl, rfl, rfl, fun earlier later split turns before => ?_⟩
      have reading : ∀ event ∈ earlier, event.isWriter = false := by
        intro event member
        have inside : event ∈ earlier ++ later := List.mem_append_left later member
        rw [← split] at inside
        rw [List.mem_singleton.mp inside]
        rfl
      rw [Shown.run_of_reading reading]
      simp [brought]
  | cons answer answers ih =>
      have others := @ih (fun answer member => plain answer (List.mem_cons_of_mem _ member))
        (fun fault member => passing fault (List.mem_cons_of_mem _ member))
      rw [List.cons_append] at forwards
      cases answer with
      | error reason =>
          rcases forwards.of_interrupted (passing reason List.mem_cons_self) with
            ⟨own, onward, rfl⟩
          have next := others onward neverFails
          rw [← carried_nil begun] at next
          exact next.cons Serves.nil (fun _ => rfl)
      | ok bytes =>
          have nonempty : bytes ≠ [] :=
            fun empty => plain _ List.mem_cons_self (congrArg Except.ok empty)
          rcases forwards.of_data nonempty with ⟨own, onward, rfl⟩
          rcases onward.of_lines (fun line member => ne_nil_of_mem_finished member) neverFails with
            ⟨written, rest, later, serves, remains, last, rfl⟩
          exact (others last remains).cons serves (fun _ => rfl)

/-- All complete lines of some bytes are visible, each as a portion of its own, and nothing else
was handed over. -/
structure UpToDate (bytes : Bytes) (shown : Shown) : Prop where
  lines : ∀ line ∈ shown.visible, IsLine line
  rest : ∃ rest, bytes = shown.visible.flatten ++ rest ∧ Bytes.newline ∉ rest
  pending : shown.pending = []

theorem upToDate_finished (bytes : Bytes) : UpToDate bytes ⟨finished [] bytes, []⟩ where
  lines _ member := isLine_of_mem_finished List.not_mem_nil member
  rest := ⟨carried [] bytes, (flatten_finished [] bytes).symm,
    newline_notMem_carried List.not_mem_nil bytes⟩
  pending := rfl

/-- What a relay has done whose source hands on the steps `pre` and then fails for good. -/
structure UntilFault (capacity : Nat) (pre : List Source.Step) (fault : Fault)
    (report : Report) : Prop where
  outcome : report.outcome = .error fault
  within : Event.output report.events <+: Source.bytes pre
  ends : EndsLine (Event.output report.events)
  longest : ∀ other, other <+: Source.bytes pre -> EndsLine other ->
    other <+: Event.output report.events
  flushing : report.events.filter Event.isFlushing =
    List.replicate ((Source.bytes pre).count Bytes.newline) (.flush (.ok ()))
  shown : UpToDate (Source.bytes pre) (Event.shown report.events)
  calls : report.events.filter (fun event => !event.isWriter) =
    (Source.answers capacity (pre ++ [.fault fault])).map Source.event
  /-- So it is whenever the source is asked, for what it has given by then. -/
  upToDate : ∀ earlier answer later, report.events = earlier ++ .read answer :: later ->
    UpToDate ((Source.bytes pre).take (Event.received earlier)) (Event.shown earlier)

end Relay

open AstLink.Stream

/-- A relay whose source ends with a fault ends with that fault, and no complete line is lost.

Before the fault the source hands on bytes, in portions of any size that are not empty, and has
calls broken off; the writer never fails.  The output is then the longest beginning of these bytes
that ends where a line does.  Each line has been flushed by itself, there is no other flush, and the
source is not asked again after its fault.  Moreover the output is up to date whenever the source is
asked: all lines of the bytes received by then are visible. -/
theorem relay_until_fault {capacity : Nat} (positive : 0 < capacity) (pre post : List Source.Step)
    (unmarked : .data [] ∉ pre)
    (passing : ∀ fault, .fault fault ∈ pre -> fault.isInterrupted = true)
    {fault : Fault} (final : fault.isInterrupted = false)
    (sink : Sink) (neverFails : sink.NeverFails) :
    Relay.UntilFault capacity pre fault
      (relay (.buffered capacity (pre ++ .fault fault :: post)) sink) := by
  have split (more : List Source.Step) : Source.answers capacity (pre ++ .fault fault :: more) =
      Source.answers capacity pre ++ .error fault :: Source.answers capacity more := by
    simp [Source.answers, Source.Step.answers]
  have forwards := Relay.relay_forwards (.buffered capacity (pre ++ .fault fault :: post)) sink
  rw [Reader.lineReads_buffered, split] at forwards
  have prompt := forwards.prompt
    (fun answer member mark => unmarked (mark_mem_of_answers positive (mark ▸ member)))
    (fun fault member => passing fault (fault_mem_of_answers member)) final neverFails
  generalize relay (.buffered capacity (pre ++ .fault fault :: post)) sink = report at prompt ⊢
  have data_eq : brought (Source.answers capacity pre) = Source.bytes pre :=
    brought_answers positive pre
  have total : Event.received report.events = (Source.bytes pre).length := by
    have calls := Event.received_filter report.events
    rw [prompt.calls, Event.received_map_event, brought_append, data_eq] at calls
    rw [← calls, brought, brought, List.append_nil]
  -- The report up to a place where the source is asked, or up to its end.
  have upToDate (earlier later : List Event) (whole : report.events = earlier ++ later)
      (turns : Relay.TurnsToSource later) :
      Event.shown earlier =
        ⟨finished [] ((Source.bytes pre).take (Event.received earlier)), []⟩ := by
    have seen := prompt.shown earlier later whole turns []
    rwa [data_eq] at seen
  have ended : Event.shown report.events = ⟨finished [] (Source.bytes pre), []⟩ := by
    have whole := upToDate report.events [] (List.append_nil _).symm Relay.TurnsToSource.nil
    rwa [total, List.take_length] at whole
  have all : Event.output report.events = (finished [] (Source.bytes pre)).flatten := by
    rw [Event.output_eq_shown, ended]
    exact List.append_nil _
  have kept := flatten_finished_longest (Source.bytes pre)
  rw [← all] at kept
  refine ⟨prompt.outcome, kept.1, kept.2.1, kept.2.2, ?_, ?_, ?_, ?_⟩
  · rw [prompt.flushing, data_eq, length_finished]
  · rw [ended]
    exact Relay.upToDate_finished (Source.bytes pre)
  · rw [prompt.calls, split []]
    rfl
  · intro earlier answer later whole
    rw [upToDate earlier _ whole (Relay.TurnsToSource.read answer later)]
    exact Relay.upToDate_finished _

/-- A source that breaks within its third line, which it would have gone on with.  Two lines were
complete by then, one of them over an interruption. -/
theorem relay_until_fault_midline :
    let interrupted := Fault.ofKind .interrupted
    let broken := Fault.ofKind .connectionReset
    let pre : List Source.Step :=
      [.data [0x61, 0x0a, 0x62], .fault interrupted, .data [0x0a, 0x63]]
    let sink : Sink := ⟨[.atMost 1, .fault interrupted], [none]⟩
    let report := relay (.buffered 2 (pre ++ .fault broken :: [.data [0x0a]])) sink
    report.outcome = .error broken ∧
      [0x61, 0x0a, 0x62, 0x0a] <+: Event.output report.events ∧
      report.events.filter Event.isFlushing = [.flush (.ok ()), .flush (.ok ())] ∧
      Relay.UpToDate [0x61, 0x0a, 0x62, 0x0a, 0x63] (Event.shown report.events) := by
  intro interrupted broken pre sink report
  have passing : ∀ fault, .fault fault ∈ pre -> fault.isInterrupted = true := by
    simp [pre, interrupted, Fault.ofKind, Fault.isInterrupted]
  have told := relay_until_fault (show 0 < 2 by decide) pre [.data [0x0a]] (by simp [pre]) passing
    (show broken.isInterrupted = false by decide) sink (by decide)
  refine ⟨told.outcome, told.longest _ ?_ (Or.inr rfl), told.flushing, told.shown⟩
  exact ⟨[0x63], rfl⟩

end AstLink
