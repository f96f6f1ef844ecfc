import AstLink.Proofs.Relay.Accounting
import AstLink.Proofs.Relay.WriterSide
import AstLink.Proofs.Run.Outcome

namespace AstLink

/-!
What a run does, and what it makes of a child's output.

A child writes to two outputs that share one pipe.  The pipe hands the bytes on in whatever portions
it likes, so a run cannot know which output a byte was written to, and its writer does not even
learn of the portions: it sees what a relay of all the bytes at once would do to it
(`Child.relay_writerSide`).

A run that has started a child waits for it, once, after the last call of the relay, and it does so
whether or not the relay succeeded.  The main statement is `run_conduct`.
-/

namespace Run

/-- The call of a stream that an action is, if it is one. -/
def Action.stream? : Action -> Option Stream.Event
  | .stream event => some event
  | _ => none

/-- The process whose end an action awaits, if it awaits one. -/
def Action.waited? : Action -> Option Nat
  | .wait process => some process
  | _ => none

/-- The processes that a run waited for. -/
def Report.waits (report : Report) : List Nat := report.actions.filterMap Action.waited?

theorem Report.streams_eq (report : Report) :
    report.streams = report.actions.filterMap Action.stream? := rfl

theorem filterMap_stream_streams (events : List Stream.Event) :
    (events.map Action.stream).filterMap Action.stream? = events := by
  rw [List.filterMap_map]
  exact List.filterMap_some

/-- Calls of streams wait for no process. -/
theorem filterMap_waited_streams (events : List Stream.Event) :
    (events.map Action.stream).filterMap Action.waited? = [] := by
  rw [List.filterMap_map, List.filterMap_eq_nil_iff]
  exact fun _ _ => rfl

/-- Nor does anything that is logged, and it is no call of a stream, either. -/
theorem filterMap_logs (events : List Log.Event) :
    (events.map Action.log).filterMap Action.stream? = [] ∧
      (events.map Action.log).filterMap Action.waited? = [] := by
  rw [List.filterMap_map, List.filterMap_map, List.filterMap_eq_nil_iff,
    List.filterMap_eq_nil_iff]
  exact ⟨fun _ _ => rfl, fun _ _ => rfl⟩

end Run

/-! ## What the pipe hands on -/

namespace Stream.Source

variable {chunks : List Bytes}

/-- Portions that are not empty are no marks. -/
theorem mark_notMem_data (nonempty : ∀ chunk ∈ chunks, chunk ≠ []) :
    Step.data [] ∉ chunks.map Step.data := by
  intro member
  rcases List.mem_map.mp member with ⟨chunk, inside, equal⟩
  exact nonempty chunk inside (Step.data.inj equal)

theorem fault_notMem_data (fault : Fault) : Step.fault fault ∉ chunks.map Step.data := by
  intro member
  rcases List.mem_map.mp member with ⟨chunk, _, impossible⟩
  cases impossible

variable (chunks) in
theorem bytes_data : bytes (chunks.map Step.data) = chunks.flatten := by
  rw [bytes, List.flatMap_map]
  exact List.flatMap_id

/-- Portions, none of them empty, say the same as all of their bytes at once. -/
theorem signal_data (nonempty : ∀ chunk ∈ chunks, chunk ≠ []) :
    signal (chunks.map Step.data) = signal [.data chunks.flatten] := by
  have heard := tokens_eq_map_byte _ (mark_notMem_data nonempty)
  rw [bytes_data] at heard
  cases whole : chunks.flatten with
  | nil =>
      -- No bytes at once are a mark, and there are only marks after the portions, too.
      rw [whole] at heard
      have quiet (place : Nat) :
          ([] : List Token).getD place .mark = [Token.mark].getD place .mark := by
        cases place with
        | zero => rfl
        | succ place => rfl
      unfold signal Signal.ofTokens
      simp only [heard, List.map_nil, quiet]
      rfl
  | cons byte rest =>
      have same : tokens [.data (byte :: rest)] = (byte :: rest).map Token.byte := by
        simp [tokens, Step.tokens, Token.ofBytes]
      rw [signal, signal, heard, same, whole]

end Stream.Source

namespace Child

/-- Everything that a child writes, to whichever output. -/
def output (child : Child) : Bytes := (child.writes.map Prod.snd).flatten

/-- The writer sees what a relay of the whole output at once would do, through a buffer of any
size. -/
theorem relay_writerSide (child : Child) {capacity : Nat} (positive : 0 < capacity)
    (sink : Stream.Sink) :
    (relay child.reader sink).writerSide =
      (relay (.buffered capacity [.data child.output]) sink).writerSide := by
  apply Relay.relay_writerSide (by decide) positive
  · exact fun fault member => absurd member (Stream.Source.fault_notMem_data fault)
  · intro fault member
    cases List.mem_singleton.mp member
  · rw [Stream.Source.signal_data child.chunks_nonempty, child.chunks_flatten, output]

/-- A child's output gets through to a writer that never fails. -/
theorem relay_output (child : Child) {sink : Stream.Sink} (neverFails : sink.NeverFails) :
    (∃ lines, (relay child.reader sink).outcome = .ok lines) ∧
      Stream.Event.output (relay child.reader sink).events = child.output := by
  have unmarked := Stream.Source.mark_notMem_data child.chunks_nonempty
  have served := Stream.Reader.buffered_delivered (show 0 < pipeCapacity by decide)
    (child.chunks.map Stream.Source.Step.data)
    (fun fault member => absurd member (Stream.Source.fault_notMem_data fault))
  have complete := Relay.relay_complete child.reader served.1 sink neverFails
  have lines : Stream.LineRead.lines child.reader.lineReads = _ := served.2.1
  refine ⟨⟨_, complete.1⟩, ?_⟩
  rw [Stream.Event.output_eq_shown, complete.2, lines, output, ← child.chunks_flatten,
    ← Stream.Source.bytes_data, ← Stream.Source.data_signal_of_unmarked _ unmarked]
  exact (List.append_nil _).trans (Stream.Token.flatten_lines _)

end Child

/-! ## Whole runs -/

namespace Invocation

variable {invocation : Invocation} {host : Host} {child : Child}

/-- A run that cannot start a child calls no stream and waits for nothing. -/
theorem streams_of_unlaunched {error : MergeError} (refused : invocation.launch host = .error error)
    (sink : Stream.Sink) :
    (invocation.run host sink).streams = [] ∧ (invocation.run host sink).waits = [] := by
  rw [run_of_unlaunched sink refused]
  exact ⟨rfl, rfl⟩

/-- The calls of streams that it makes are those of the relay, and all of them come before the
wait. -/
theorem run_waits (launched : invocation.launch host = .ok child) (sink : Stream.Sink) :
    let report := invocation.run host sink
    report.streams = (relay child.reader sink).events ∧ report.waits = [child.process] ∧
      ∃ before after, report.actions = before ++ .wait child.process :: after ∧
        before.filterMap Run.Action.stream? = (relay child.reader sink).events ∧
        after.filterMap Run.Action.stream? = [] := by
  intro report
  rcases run_of_launched sink launched with ⟨last, same⟩
  have actions := congrArg Run.Report.actions same
  have logged := Run.filterMap_logs last
  refine ⟨?_, ?_, _, _, actions, ?_, logged.1⟩
  · rw [Run.Report.streams_eq, actions]
    simp only [List.filterMap_append, List.filterMap_cons, List.filterMap_nil, Run.Action.stream?,
      Run.filterMap_stream_streams, logged.1, List.nil_append, List.append_nil]
  · rw [Run.Report.waits, actions]
    simp only [List.filterMap_append, List.filterMap_cons, List.filterMap_nil,
      Run.Action.waited?, Run.filterMap_waited_streams, logged.2, List.nil_append]
  · rw [List.filterMap_append, Run.filterMap_stream_streams]
    rfl

/-- The writer's calls in a run and its result, as far as the child's whole output decides them. -/
theorem run_writerSide (launched : invocation.launch host = .ok child) {capacity : Nat}
    (positive : 0 < capacity) (sink : Stream.Sink) :
    let report := invocation.run host sink
    let whole := relay (.buffered capacity [.data child.output]) sink
    report.streams.filter Stream.Event.isWriter = whole.events.filter Stream.Event.isWriter ∧
      report.outcome = conclude child whole.outcome := by
  intro report whole
  have side := child.relay_writerSide positive sink
  have calls := congrArg Relay.Report.events side
  have ended := congrArg Relay.Report.outcome side
  refine ⟨?_, (outcome_of_launched launched).trans (congrArg (conclude child) ended)⟩
  rw [(run_waits launched sink).1]
  exact calls

end Invocation

/-- What a run does with a child that it has started, and what it makes of it. -/
structure Run.Attends (invocation : Invocation) (sink : Stream.Sink) (child : Child)
    (report : Run.Report) : Prop where
  waits : report.waits = [child.process]
  /-- The wait comes after the last call of the relay. -/
  waitsLast : ∃ before after, report.actions = before ++ .wait child.process :: after ∧
    before.filterMap Run.Action.stream? = (relay child.reader sink).events ∧
    after.filterMap Run.Action.stream? = []
  /-- Whatever became of the relay. -/
  unawaited : ∀ fault, child.ending = .error fault -> report.outcome = .error (.wait fault)
  /-- However the child ended. -/
  unrelayed : ∀ status fault, child.ending = .ok status ->
    (relay child.reader sink).outcome = .error fault -> report.outcome = .error (.relay fault)
  /-- Whatever was relayed. -/
  relayed : ∀ status lines, child.ending = .ok status ->
    (relay child.reader sink).outcome = .ok lines -> report.outcome = .ok status
  /-- All comes to the same as relaying the whole output at once would. -/
  output : ∀ capacity, 0 < capacity ->
    let whole := relay (.buffered capacity [.data child.output]) sink
    report.streams.filter Stream.Event.isWriter = whole.events.filter Stream.Event.isWriter ∧
      report.outcome = Invocation.conclude child whole.outcome
  /-- It does not matter to which output something was written. -/
  moved : ∀ elsewhere other, invocation.launch elsewhere = .ok other ->
    other.ending = child.ending -> other.writes.map Prod.snd = child.writes.map Prod.snd ->
    (invocation.run elsewhere sink).streams.filter Stream.Event.isWriter =
        report.streams.filter Stream.Event.isWriter ∧
      (invocation.run elsewhere sink).outcome = report.outcome

/-- What a run comes to on a host. -/
structure Run.Conduct (invocation : Invocation) (host : Host) (sink : Stream.Sink)
    (report : Run.Report) : Prop where
  unconnected : ∀ fault, host.connect = .error fault ->
    report.outcome = .error (.pipe fault) ∧ report.streams = [] ∧ report.waits = []
  unlaunched : ∀ fault, host.connect = .ok () -> invocation.command.start host = .error fault ->
    report.outcome = .error (.launch (Text.shown invocation.compiler.bytes) fault) ∧
      report.streams = [] ∧ report.waits = []
  launched : ∀ child, host.connect = .ok () -> invocation.command.start host = .ok child ->
    Run.Attends invocation sink child report

theorem Invocation.run_attends {invocation : Invocation} {host : Host} {child : Child}
    (launched : invocation.launch host = .ok child) (sink : Stream.Sink) :
    Run.Attends invocation sink child (invocation.run host sink) where
  waits := (run_waits launched sink).2.1
  waitsLast := (run_waits launched sink).2.2
  unawaited := fun fault lost => by
    rw [outcome_of_launched launched]
    simp only [conclude, lost]
  unrelayed := fun status fault ended broken => by
    rw [outcome_of_launched launched]
    simp only [conclude, ended, broken]
  relayed := fun status lines ended whole =>
    (outcome_of_launched launched).trans (conclude_eq_ok_iff.mpr ⟨ended, lines, whole⟩)
  output := fun _ positive => run_writerSide launched positive sink
  moved := fun elsewhere other launched' ending writes => by
    -- Both runs are compared with a relay of the whole output, which is the same for both.
    have here := run_writerSide launched (show 0 < 1 by decide) sink
    have there := run_writerSide launched' (show 0 < 1 by decide) sink
    have output : other.output = child.output := congrArg List.flatten writes
    have ended (relayed : Except Fault Nat) : conclude other relayed = conclude child relayed := by
      simp only [conclude, ending]
    rw [output] at there
    exact ⟨there.1.trans here.1.symm, (there.2.trans (ended _)).trans here.2.symm⟩

/-- What a run comes to, for every host and every writer.

If the pipe or the child cannot be made, the result says so, naming the compiler in the second case,
and the writer is not called at all.  If there is a child, it is waited for exactly once and after
the last call of the relay.  The result is the fault of the wait, or else that of the relay,
whatever the child's status, and the child's own status otherwise.  The calls of the writer and the
result are those of a relay of everything that the child writes, in the order in which it writes it,
so they stay the same where a child writes the same to other outputs. -/
theorem run_conduct (invocation : Invocation) (host : Host) (sink : Stream.Sink) :
    Run.Conduct invocation host sink (invocation.run host sink) where
  unconnected := fun fault unconnected => by
    have refused : invocation.launch host = .error (.pipe fault) :=
      Invocation.launch_of_unconnected unconnected
    exact ⟨congrArg Run.Report.outcome (Invocation.run_of_unlaunched sink refused),
      Invocation.streams_of_unlaunched refused sink⟩
  unlaunched := fun fault connected refused => by
    have refused := Invocation.launch_of_refused connected refused
    exact ⟨congrArg Run.Report.outcome (Invocation.run_of_unlaunched sink refused),
      Invocation.streams_of_unlaunched refused sink⟩
  launched := fun child connected started =>
    Invocation.run_attends (Invocation.launch_eq_ok_iff.mpr ⟨connected, started⟩) sink

/-- A child of which a part of the first line gets through, and one that writes the same with its
outputs exchanged.  Both are waited for, although both exit with zero and the relay fails. -/
theorem run_conduct_exchanged :
    let invocation : Invocation := ⟨⟨Text.bytes "cc"⟩, ⟨Text.bytes "merged.ast"⟩, ⟨[]⟩, []⟩
    let fault := Fault.ofKind .brokenPipe
    let sink : Stream.Sink := ⟨[.atMost 1, .fault fault], []⟩
    let child := Child.ofWrites 7 [(.stdout, [0x61]), (.stderr, [0x62, 0x0a])] (.exited 0)
    let moved := Child.ofWrites 8 [(.stderr, [0x61]), (.stdout, [0x62, 0x0a])] (.exited 0)
    let report := invocation.run { start := fun _ => .ok child } sink
    let other := invocation.run { start := fun _ => .ok moved } sink
    report.waits = [7] ∧ report.outcome = .error (.relay fault) ∧
      other.streams.filter Stream.Event.isWriter =
        report.streams.filter Stream.Event.isWriter ∧
      other.outcome = report.outcome := by
  intro invocation fault sink child moved report other
  have attends := (run_conduct invocation { start := fun _ => .ok child } sink).launched child
    rfl rfl
  have broken : (relay (.buffered 4 [.data child.output]) sink).outcome = .error fault := by
    decide +kernel
  have whole := attends.output 4 (by decide)
  refine ⟨attends.waits, ?_, attends.moved { start := fun _ => .ok moved } moved rfl rfl rfl⟩
  exact whole.2.trans (congrArg (Invocation.conclude child) broken)

end AstLink
