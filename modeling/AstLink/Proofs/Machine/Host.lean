import AstLink.Machine
import AstLink.Proofs.Machine.Runs
import AstLink.Proofs.Run.Conduct
import AstLink.Proofs.Status.Decoding

namespace AstLink

/-!
What a machine owes a run.

A run knows of its host that it may give a child, what the child writes and in which portions that
comes, and how it ends.  A machine refuses a command with an obstacle that its loader met, or it
carries the program out.  The child's writes are then those that were made to the two outputs by any
of the processes, in the order in which they were made; each is a portion by itself; and the child
ends as the first process did, at whatever time that was (`Machine.Carried`,
`Machine.carryOut_carried`).  So a merge on a machine into an output that never fails puts out all
that was written, in that order, and ends as the first process did (`Machine.run_host`).
-/

namespace Machine

open AstLink.Stream

/-- The system knows every obstacle, so a refusal says which one there was. -/
theorem Obstacle.exists_fault (obstacle : Obstacle) :
    ∃ kind, Fault.numbered.lookup (Int.ofNat obstacle.number) = some (kind, obstacle.text) ∧
      obstacle.fault = ⟨kind, obstacle.text ++
        (" (os error " ++ toString (Int.ofNat obstacle.number) ++ ")")⟩ := by
  have known : (Fault.numbered.lookup (Int.ofNat obstacle.number)).isSome = true := by
    cases obstacle <;> rfl
  rcases Option.isSome_iff_exists.mp known with ⟨⟨kind, text⟩, found⟩
  have said : obstacle.text = text := by rw [Obstacle.text, found]
  refine ⟨kind, said ▸ found, ?_⟩
  rw [fault, Fault.ofNumber, found, said]

/-- The system's word for an ending says how the process ended. -/
theorem Ending.outcome_status (ending : Ending) :
    ending.status.outcome =
      match ending with
      | .exit code => .exited (code % 256)
      | .signal fatal => .signalled fatal.number := by
  cases ending with
  | exit code =>
      rw [status, WaitStatus.outcome_exited, UInt8.toNat_ofNat']
  | signal fatal =>
      have range := fatal.isFatal
      simp only [Signal.isFatal, Bool.and_eq_true, decide_eq_true_eq] at range
      have below : fatal.number ≤ 64 := range.1.2
      have number : (UInt8.ofNat fatal.number).toNat = fatal.number := by
        rw [UInt8.toNat_ofNat']
        exact Nat.mod_eq_of_lt (by omega)
      rw [status, WaitStatus.outcome_killed (by omega) (by omega), number]

/-- A machine that is about to run a program has that one process, which no other started. -/
theorem boot_standing (machine : Machine) (image : Image) :
    Kernel.Standing (machine.boot image).2 (fun _ => True) (machine.boot image).1 where
  below := Nat.lt_succ_self _
  positive process member := by
    rw [List.mem_singleton.mp member]
    exact Nat.zero_lt_succ 1000
  present := ⟨_, List.mem_singleton_self _, rfl⟩
  unique process member other otherMember _ _ :=
    (List.mem_singleton.mp member).trans (List.mem_singleton.mp otherMember).symm
  stands process member _ := by
    rw [List.mem_singleton.mp member]
    exact ⟨rfl, trivial⟩

/-- How the first process of a program has ended when so many requests have been answered, if it
has. -/
def ending? (machine : Machine) (image : Image) (requests : Nat) : Option Ending :=
  (Kernel.process? (machine.worldAfter image requests) (machine.boot image).2).bind Process.ending

/-- A child that carries a program out. -/
structure Carried (machine : Machine) (image : Image) (child : Child) : Prop where
  /-- What has been written at any time comes first in its writes. -/
  writes : ∀ requests, requests ≤ Kernel.maxRequests ->
    (machine.worldAfter image requests).writes.reverse <+: child.writes
  all : child.writes = (machine.worldAfter image Kernel.maxRequests).writes.reverse
  /-- What is handed on at once is what was written at once. -/
  chunks : child.chunks = (child.writes.map Prod.snd).filter (fun bytes => bytes != [])
  /-- It is the ending of the first process, whenever that came, or it was killed because it did not
  come. -/
  ending : ∃ ending : Ending, child.ending = .ok ending.status ∧
    (∀ requests, requests ≤ Kernel.maxRequests -> ∀ early,
      machine.ending? image requests = some early -> ending = early) ∧
    (machine.ending? image Kernel.maxRequests = none -> ending = .signal .kill)

theorem carryOut_carried (machine : Machine) (image : Image) :
    machine.Carried image (machine.carryOut image) where
  writes requests few := Kernel.writes_prefix _ _ few
  all := rfl
  chunks := rfl
  ending := by
    refine ⟨_, rfl, fun requests few early ended => ?_, fun never => ?_⟩
    · exact Kernel.endingOf_run _ (machine.boot_standing image) few ended
    · exact congrArg (·.getD (.signal .kill)) never

/-- A machine refuses a command for what its loader met, or it carries the program out. -/
theorem start_cases (machine : Machine) (command : Command) :
    (∃ obstacle, machine.load command = .error obstacle ∧
      machine.start command = .error obstacle.fault) ∨
    ∃ image child, machine.load command = .ok image ∧ machine.start command = .ok child ∧
      machine.Carried image child := by
  cases loaded : machine.load command with
  | error obstacle => exact Or.inl ⟨obstacle, rfl, by rw [start, loaded]⟩
  | ok image =>
      exact Or.inr ⟨image, _, rfl, by rw [start, loaded], machine.carryOut_carried image⟩

/-- A run on a machine into an output that never fails: it fails where its command is refused, and
else it puts out what the machine's processes wrote and ends as the first of them did. -/
theorem run_host (machine : Machine) (invocation : Invocation) {sink : Stream.Sink}
    (neverFails : sink.NeverFails) :
    let report := invocation.run machine.host sink
    (∃ fault, invocation.command.start machine.host = .error fault ∧
      report.outcome = .error (.launch (Text.shown invocation.compiler.bytes) fault) ∧
      report.streams = []) ∨
    ∃ image child status, machine.load invocation.command = .ok image ∧
      machine.Carried image child ∧ child.ending = .ok status ∧ report.outcome = .ok status ∧
      Stream.Event.output report.streams = child.output := by
  intro report
  have connected : machine.host.connect = .ok () := rfl
  cases started : invocation.command.start machine.host with
  | error fault =>
      have refused := Invocation.launch_of_refused connected started
      refine Or.inl ⟨fault, rfl, ?_, (Invocation.streams_of_unlaunched refused sink).1⟩
      exact congrArg Run.Report.outcome (Invocation.run_of_unlaunched sink refused)
  | ok child =>
      have launched := Invocation.launch_eq_ok_iff.mpr ⟨connected, started⟩
      have own : machine.start invocation.command = .ok child := by
        unfold Command.start at started
        split at started
        · cases started
        · exact started
      rcases machine.start_cases invocation.command with
        ⟨obstacle, _, refused⟩ | ⟨image, other, loaded, same, carried⟩
      · rw [own] at refused
        cases refused
      · cases own.symm.trans same
        rcases carried.ending with ⟨ending, ended, _⟩
        rcases child.relay_output neverFails with ⟨⟨lines, relayed⟩, output⟩
        refine Or.inr ⟨image, child, ending.status, loaded, carried, ended, ?_, ?_⟩
        · exact (Invocation.outcome_of_launched launched).trans
            (Invocation.conclude_eq_ok_iff.mpr ⟨ended, lines, relayed⟩)
        · exact (congrArg Stream.Event.output (Invocation.run_waits launched sink).1).trans output

end Machine
end AstLink
