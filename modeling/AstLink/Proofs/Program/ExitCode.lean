import AstLink.Program
import AstLink.Proofs.Log.Breakdown
import AstLink.Proofs.Run.Outcome
import AstLink.Proofs.Status.Decoding

namespace AstLink
namespace Program

/-!
The exit code of the whole program.

A build takes exit code zero for a merge that was made, so no other run may end with it: not a
command line that was refused, not a compiler that could not be started or waited for, not an output
that did not get through, and not a compiler that failed or was killed.  `ExitSound` says what each
of these ends with.  It does not mention the log filter.

The filter does matter in one case.  If reading it breaks down, the program ends before it has
started the compiler.  This is the only exception (`exitSound_iff`).
-/

/-- The commands that the program started. -/
def Report.started (report : Report) : List Command :=
  report.actions.filterMap Run.Action.started?

/-- The program has ended as its command line, its host and its output demand. -/
structure ExitSound (words : List Bytes) (host : Host) (sink : Stream.Sink) (report : Report) :
    Prop where
  /-- Zero means that a text was asked for, or that the compiler ran to its end, all of its output
  got through, and it exited with code zero. -/
  zero : report.exit = 0 ↔
    (CommandLine.parse words = .error .help ∨ CommandLine.parse words = .error .version) ∨
    ∃ line child status lines, CommandLine.parse words = .ok line ∧
      line.invocation.launch host = .ok child ∧ (relay child.reader sink).outcome = .ok lines ∧
      child.ending = .ok status ∧ status.outcome = .exited 0
  /-- No compiler is started where a text was asked for. -/
  answered : CommandLine.parse words = .error .help ∨ CommandLine.parse words = .error .version ->
    report.started = []
  refused : ∀ refusal, CommandLine.parse words = .error refusal -> refusal ≠ .help ->
    refusal ≠ .version -> report.started = [] ∧ report.exit = 2
  /-- Neither without a pipe nor where the compiler itself is not to be had. -/
  unlaunched : ∀ line error, CommandLine.parse words = .ok line ->
    line.invocation.launch host = .error error -> report.started = [] ∧ report.exit = 1
  unawaited : ∀ line child fault, CommandLine.parse words = .ok line ->
    line.invocation.launch host = .ok child -> child.ending = .error fault ->
    report.started = [line.invocation.command] ∧ report.exit = 1
  /-- However the compiler ended. -/
  unrelayed : ∀ line child fault, CommandLine.parse words = .ok line ->
    line.invocation.launch host = .ok child ->
    (relay child.reader sink).outcome = .error fault ->
    report.started = [line.invocation.command] ∧ report.exit = 1
  relayed : ∀ line child status lines, CommandLine.parse words = .ok line ->
    line.invocation.launch host = .ok child -> child.ending = .ok status ->
    (relay child.reader sink).outcome = .ok lines ->
    report.started = [line.invocation.command] ∧ report.exit.toNat = status.outcome.exit

variable {words : List Bytes} {host : Host} {sink : Stream.Sink}

/-! ## The three ways of a program -/

section Ways

variable (host sink) {values : Log.Values} {setting : Option Bytes} {line : CommandLine}

variable (values setting) in
theorem run_of_refused {refusal : CommandLine.Refusal}
    (parsed : CommandLine.parse words = .error refusal) :
    run words setting host sink values = refuse words sink refusal := by
  simp only [run, parsed]

theorem run_of_breaksDown (parsed : CommandLine.parse words = .ok line)
    (breaks : Log.Filter.BreaksDown values setting) :
    run words setting host sink values = breakdown := by
  have read := (Log.Filter.ofSetting?_eq_none_iff values setting).mpr breaks
  simp only [run, parsed, read]

theorem run_of_filter {filter : Log.Filter} (parsed : CommandLine.parse words = .ok line)
    (read : Log.Filter.ofSetting? setting values = some filter) :
    run words setting host sink values = conclude filter (line.invocation.run host sink) := by
  simp only [run, parsed, read]

/-- Where reading the setting does not break down, a filter is in force. -/
theorem exists_run_of_reads (parsed : CommandLine.parse words = .ok line)
    (reads : ¬ Log.Filter.BreaksDown values setting) :
    ∃ filter, run words setting host sink values =
      conclude filter (line.invocation.run host sink) := by
  cases read : Log.Filter.ofSetting? setting values with
  | none => exact absurd ((Log.Filter.ofSetting?_eq_none_iff values setting).mp read) reads
  | some filter => exact ⟨filter, run_of_filter host sink parsed read⟩

end Ways

/-! ## Without a merge -/

theorem isAnswer_iff (refusal : CommandLine.Refusal) :
    refusal.isAnswer = true ↔ refusal = .help ∨ refusal = .version := by
  cases refusal <;> simp [CommandLine.Refusal.isAnswer]

variable (words sink) in
theorem refuse_started (refusal : CommandLine.Refusal) :
    (refuse words sink refusal).started = [] := by
  unfold refuse
  split
  · exact Run.filterMap_started_streams _
  · rfl

variable (words sink) in
theorem refuse_exit (refusal : CommandLine.Refusal) :
    (refuse words sink refusal).exit = if refusal.isAnswer then 0 else 2 := by
  unfold refuse CommandLine.Refusal.exitCode
  cases refusal.isAnswer with
  | true => rfl
  | false => rfl

/-- A command line that asks for no merge is dealt with as it should be. -/
theorem refuse_exitSound {refusal : CommandLine.Refusal}
    (parsed : CommandLine.parse words = .error refusal) :
    ExitSound words host sink (refuse words sink refusal) := by
  have exit := refuse_exit words sink refusal
  have started := refuse_started words sink refusal
  have noLine (line : CommandLine) : CommandLine.parse words ≠ .ok line := by
    rw [parsed]
    exact fun impossible => nomatch impossible
  have asked : (CommandLine.parse words = .error .help ∨
      CommandLine.parse words = .error .version) ↔ refusal.isAnswer = true := by
    rw [isAnswer_iff, parsed, Except.error.injEq, Except.error.injEq]
  have exitZero : (refuse words sink refusal).exit = 0 ↔ refusal.isAnswer = true := by
    rw [exit]
    cases refusal.isAnswer with
    | true => exact ⟨fun _ => rfl, fun _ => rfl⟩
    | false => simp
  refine ⟨?_, fun _ => started, ?_, ?_, ?_, ?_, ?_⟩
  · rw [exitZero, asked]
    refine ⟨Or.inl, fun either => either.resolve_right ?_⟩
    rintro ⟨line, child, status, lines, accepted, rest⟩
    exact noLine line accepted
  · intro other same notHelp notVersion
    rw [parsed] at same
    cases same
    have unanswered : ¬ refusal.isAnswer = true :=
      fun isAnswer => ((isAnswer_iff refusal).mp isAnswer).elim notHelp notVersion
    exact ⟨started, by rw [exit, if_neg unanswered]⟩
  · exact fun line _ accepted => absurd accepted (noLine line)
  · exact fun line _ _ accepted => absurd accepted (noLine line)
  · exact fun line _ _ accepted => absurd accepted (noLine line)
  · exact fun line _ _ _ accepted => absurd accepted (noLine line)

/-! ## With a merge -/

variable {line : CommandLine}

/-- A program has ended as the run demands that its command line leads to. -/
structure Concluded (host : Host) (sink : Stream.Sink) (line : CommandLine) (report : Report) :
    Prop where
  unlaunched : ∀ error, line.invocation.launch host = .error error ->
    report.started = [] ∧ report.exit = 1
  failed : ∀ child error, line.invocation.launch host = .ok child ->
    Invocation.conclude child (relay child.reader sink).outcome = .error error ->
    report.started = [line.invocation.command] ∧ report.exit = 1
  ended : ∀ child status, line.invocation.launch host = .ok child ->
    Invocation.conclude child (relay child.reader sink).outcome = .ok status ->
    report.started = [line.invocation.command] ∧ report.exit.toNat = status.outcome.exit

/-- Zero is left to the compilers that exited with zero and whose output got through. -/
theorem Concluded.exit_eq_zero_iff {report : Report}
    (concluded : Concluded host sink line report) :
    report.exit = 0 ↔ ∃ child status lines, line.invocation.launch host = .ok child ∧
      (relay child.reader sink).outcome = .ok lines ∧ child.ending = .ok status ∧
      status.outcome = .exited 0 := by
  constructor
  · intro zero
    have notOne : report.exit ≠ 1 := by
      rw [zero]
      decide
    cases launched : line.invocation.launch host with
    | error error => exact absurd (concluded.unlaunched error launched).2 notOne
    | ok child =>
        cases end? : Invocation.conclude child (relay child.reader sink).outcome with
        | error error => exact absurd (concluded.failed child error launched end?).2 notOne
        | ok status =>
            rcases Invocation.conclude_eq_ok_iff.mp end? with ⟨ending, lines, relayed⟩
            refine ⟨child, status, lines, rfl, relayed, ending, ?_⟩
            rw [← WaitStatus.outcome_exit_eq_zero_iff,
              ← (concluded.ended child status launched end?).2, zero]
            rfl
  · rintro ⟨child, status, lines, launched, relayed, ending, success⟩
    have end? := Invocation.conclude_eq_ok_iff.mpr ⟨ending, lines, relayed⟩
    have zero := (concluded.ended child status launched end?).2
    rw [success] at zero
    exact UInt8.toNat_inj.mp zero

/-- Where the command line is accepted, it is enough to look at what becomes of its run. -/
theorem Concluded.exitSound {report : Report} (concluded : Concluded host sink line report)
    (parsed : CommandLine.parse words = .ok line) : ExitSound words host sink report := by
  have noRefusal (refusal : CommandLine.Refusal) :
      CommandLine.parse words ≠ .error refusal := by
    rw [parsed]
    exact fun impossible => nomatch impossible
  have notAsked : ¬ (CommandLine.parse words = .error .help ∨
      CommandLine.parse words = .error .version) :=
    fun asked => asked.elim (noRefusal _) (noRefusal _)
  have same {other : CommandLine} (accepted : CommandLine.parse words = .ok other) :
      line = other := Except.ok.inj (parsed.symm.trans accepted)
  refine ⟨?_, fun asked => absurd asked notAsked,
    fun refusal refused => absurd refused (noRefusal refusal), ?_, ?_, ?_, ?_⟩
  · rw [concluded.exit_eq_zero_iff]
    constructor
    · rintro ⟨child, status, lines, rest⟩
      exact Or.inr ⟨line, child, status, lines, parsed, rest⟩
    · rintro (asked | ⟨other, child, status, lines, accepted, rest⟩)
      · exact absurd asked notAsked
      · exact ⟨child, status, lines, same accepted ▸ rest⟩
  · intro other error accepted
    exact same accepted ▸ concluded.unlaunched error
  · intro other child fault accepted launched lost
    rw [← same accepted] at launched ⊢
    refine concluded.failed child (.wait fault) launched ?_
    simp only [Invocation.conclude, lost]
  · intro other child fault accepted launched broken
    rw [← same accepted] at launched ⊢
    rcases Invocation.conclude_of_unrelayed child broken with ⟨error, end?⟩
    exact concluded.failed child error launched end?
  · intro other child status lines accepted launched ending relayed
    rw [← same accepted] at launched ⊢
    exact concluded.ended child status launched
      (Invocation.conclude_eq_ok_iff.mpr ⟨ending, lines, relayed⟩)

/-- Every failure of the wrapper itself ends it with one. -/
theorem exitByte_failure (error : MergeError) : exitByte (exitCode (.error error)) = 1 := by
  have byte : exitByte WaitStatus.failure = 1 := by decide
  cases error <;> exact byte

/-- A merge that is run under a filter ends as it should, whatever the filter. -/
theorem conclude_concluded (host : Host) (sink : Stream.Sink) (line : CommandLine)
    (filter : Log.Filter) :
    Concluded host sink line (conclude filter (line.invocation.run host sink)) := by
  have exit {outcome : Except MergeError WaitStatus}
      (ended : (line.invocation.run host sink).outcome = outcome) :
      (conclude filter (line.invocation.run host sink)).exit = exitByte (exitCode outcome) :=
    congrArg (fun outcome => exitByte (exitCode outcome)) ended
  constructor
  · intro error refused
    have ran := Invocation.run_of_unlaunched sink refused
    rw [ran] at exit ⊢
    exact ⟨rfl, (exit rfl).trans (exitByte_failure _)⟩
  · intro child error launched end?
    have outcome := (Invocation.outcome_of_launched launched).trans end?
    exact ⟨Invocation.started_of_launched launched, (exit outcome).trans (exitByte_failure _)⟩
  · intro child status launched end?
    have outcome := (Invocation.outcome_of_launched launched).trans end?
    refine ⟨Invocation.started_of_launched launched, ?_⟩
    rw [exit outcome]
    exact status.toNat_exitByte_exitCode

theorem conclude_exitSound (filter : Log.Filter) (parsed : CommandLine.parse words = .ok line) :
    ExitSound words host sink (conclude filter (line.invocation.run host sink)) :=
  (conclude_concluded host sink line filter).exitSound parsed

/-! ## The one exception -/

/-- A program that broke down has not done what an accepted command line demands. -/
theorem breakdown_not_exitSound (parsed : CommandLine.parse words = .ok line) :
    ¬ ExitSound words host sink breakdown := by
  have notOne : breakdown.exit ≠ 1 := by decide
  intro sound
  cases launched : line.invocation.launch host with
  | error error => exact notOne (sound.unlaunched line error parsed launched).2
  | ok child =>
      cases relayed : (relay child.reader sink).outcome with
      | error fault => exact notOne (sound.unrelayed line child fault parsed launched relayed).2
      | ok lines =>
          cases ending : child.ending with
          | error fault => exact notOne (sound.unawaited line child fault parsed launched ending).2
          | ok status =>
              have whole := sound.relayed line child status lines parsed launched ending relayed
              cases whole.1

/-- The program ends as it should unless its command line is accepted and reading its log filter
breaks down.  In that case it ends with code 101 and has started no compiler.  This holds whatever
counts as a value in a filter. -/
theorem exitSound_iff (values : Log.Values) (words : List Bytes) (setting : Option Bytes)
    (host : Host) (sink : Stream.Sink) :
    let report := run words setting host sink values
    let brokenDown :=
      (∃ line, CommandLine.parse words = .ok line) ∧ Log.Filter.BreaksDown values setting
    (ExitSound words host sink report ↔ ¬ brokenDown) ∧
      (brokenDown -> report.started = [] ∧ report.exit = 101) := by
  intro report brokenDown
  cases parsed : CommandLine.parse words with
  | error refusal =>
      have unaccepted : ¬ brokenDown := by
        rintro ⟨⟨line, accepted⟩, _⟩
        rw [parsed] at accepted
        cases accepted
      have same : report = refuse words sink refusal :=
        run_of_refused host sink values setting parsed
      rw [same]
      exact ⟨iff_of_true (refuse_exitSound parsed) unaccepted,
        fun broken => absurd broken unaccepted⟩
  | ok line =>
      by_cases breaks : Log.Filter.BreaksDown values setting
      · have same : report = breakdown := run_of_breaksDown host sink parsed breaks
        rw [same]
        exact ⟨iff_of_false (breakdown_not_exitSound parsed)
          (fun whole => whole ⟨⟨line, parsed⟩, breaks⟩), fun _ => ⟨rfl, by decide⟩⟩
      · have whole : ¬ brokenDown := fun broken => breaks broken.2
        rcases exists_run_of_reads host sink parsed breaks with ⟨filter, same⟩
        have same : report = conclude filter (line.invocation.run host sink) := same
        rw [same]
        exact ⟨iff_of_true (conclude_exitSound filter parsed) whole,
          fun broken => absurd broken whole⟩

/-- A merge that would end with zero, under the log filter ` é=debug`.  The blank in front of the
letter shifts the end of the directive's target into that letter. -/
theorem not_exitSound_of_shifted_target :
    let words := ["ast-merge", "cc", "merged.ast", "empty.c"].map Text.bytes
    let setting := Text.bytes " é=debug"
    let host : Host := { start := fun _ => .ok (Child.ofWrites 1 [] (.exited 0)) }
    let report := run words (some setting) host {} .words
    ¬ ExitSound words host {} report ∧ report.exit = 101 := by
  intro words setting host report
  have broken : report = breakdown := rfl
  rw [broken]
  exact ⟨breakdown_not_exitSound rfl, by decide⟩

end Program
end AstLink
