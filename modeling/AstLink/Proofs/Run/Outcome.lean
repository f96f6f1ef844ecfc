import AstLink.Run

namespace AstLink

/-!
What a run comes to.

A run starts the compiler or fails before that, and then it has done no more than log that it
begins.  Once the compiler is started it is relayed and waited for, and there are three ways that
this can end: the compiler cannot be waited for, or its output does not get through, or the run ends
as the compiler did.
-/

namespace Run

/-- The command that an action has started, if it is a start. -/
def Action.started? : Action -> Option Command
  | .start command => some command
  | _ => none

theorem Report.started_eq (report : Report) :
    report.started = report.actions.filterMap Action.started? := rfl

/-- Calls of streams start no command. -/
@[simp] theorem filterMap_started_streams (events : List Stream.Event) :
    (events.map Action.stream).filterMap Action.started? = [] := by
  rw [List.filterMap_map, List.filterMap_eq_nil_iff]
  exact fun _ _ => rfl

/-- Nothing that is logged does. -/
@[simp] theorem filterMap_started_logs (events : List Log.Event) :
    (events.map Action.log).filterMap Action.started? = [] := by
  rw [List.filterMap_map, List.filterMap_eq_nil_iff]
  exact fun _ _ => rfl

end Run

namespace Invocation

variable {invocation : Invocation} {host : Host} {sink : Stream.Sink} {child : Child}

/-! ## The start -/

theorem launch_of_unconnected {fault : Fault} (unconnected : host.connect = .error fault) :
    invocation.launch host = .error (.pipe fault) := by
  rw [launch, unconnected]
  rfl

theorem launch_of_refused {fault : Fault} (connected : host.connect = .ok ())
    (refused : invocation.command.start host = .error fault) :
    invocation.launch host =
      .error (.launch (Text.shown invocation.compiler.bytes) fault) := by
  rw [launch, connected, refused]
  rfl

theorem launch_eq_ok_iff :
    invocation.launch host = .ok child ↔
      host.connect = .ok () ∧ invocation.command.start host = .ok child := by
  cases connected : host.connect with
  | error fault =>
      rw [launch_of_unconnected connected]
      exact iff_of_false (fun impossible => nomatch impossible)
        (fun both => nomatch both.1)
  | ok _ =>
      cases started : invocation.command.start host with
      | error fault =>
          rw [launch_of_refused connected started]
          exact iff_of_false (fun impossible => nomatch impossible)
            (fun both => nomatch both.2)
      | ok other =>
          rw [launch, connected, started]
          exact ⟨fun same => ⟨rfl, congrArg Except.ok (Except.ok.inj same)⟩,
            fun both => congrArg Except.ok (Except.ok.inj both.2)⟩

/-! ## The whole -/

variable (sink) in
/-- A run that cannot start a child does no more than announce it. -/
theorem run_of_unlaunched {error : MergeError} (refused : invocation.launch host = .error error) :
    invocation.run host sink = ⟨[.log invocation.announcement], .error error⟩ := by
  unfold run
  simp only [refused]

variable (sink) in
/-- A run that has started a child relays, waits, and may then log a last event. -/
theorem run_of_launched (launched : invocation.launch host = .ok child) :
    ∃ last : List Log.Event,
      invocation.run host sink =
        { actions :=
            [.log invocation.announcement, .start invocation.command,
              .log (.started child.process)] ++
            (relay child.reader sink).events.map Run.Action.stream ++
            .wait child.process :: last.map Run.Action.log
          outcome := conclude child (relay child.reader sink).outcome } := by
  unfold run
  simp only [launched]
  cases child.ending with
  | error fault => exact ⟨[], by simp⟩
  | ok status =>
      cases (relay child.reader sink).outcome with
      | error fault => exact ⟨[], by simp⟩
      | ok lines => exact ⟨[.exited lines status], by simp⟩

theorem outcome_of_launched (launched : invocation.launch host = .ok child) :
    (invocation.run host sink).outcome = conclude child (relay child.reader sink).outcome := by
  rcases run_of_launched sink launched with ⟨last, same⟩
  rw [same]

/-- A run that has started a child has started nothing else. -/
theorem started_of_launched (launched : invocation.launch host = .ok child) :
    (invocation.run host sink).started = [invocation.command] := by
  rcases run_of_launched sink launched with ⟨last, same⟩
  rw [Run.Report.started_eq, same]
  simp only [List.filterMap_append, List.filterMap_cons, List.filterMap_nil, Run.Action.started?,
    Run.filterMap_started_streams, Run.filterMap_started_logs, List.append_nil]

/-- What is made of a child whose output got through and that was waited for. -/
theorem conclude_eq_ok_iff {relayed : Except Fault Nat} {status : WaitStatus} :
    conclude child relayed = .ok status ↔
      child.ending = .ok status ∧ ∃ lines, relayed = .ok lines := by
  unfold conclude
  cases child.ending with
  | error fault => simp
  | ok own =>
      cases relayed with
      | error fault => simp
      | ok lines => simp

variable (child) in
theorem conclude_of_unrelayed {relayed : Except Fault Nat} {fault : Fault}
    (broken : relayed = .error fault) : ∃ error, conclude child relayed = .error error := by
  unfold conclude
  rw [broken]
  cases child.ending with
  | error lost => exact ⟨_, rfl⟩
  | ok status => exact ⟨_, rfl⟩

end Invocation
end AstLink
