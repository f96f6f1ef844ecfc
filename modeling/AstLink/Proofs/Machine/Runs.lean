import AstLink.Proofs.Machine.Requests

namespace AstLink
namespace Machine
namespace Kernel

/-!
What lasts on a machine.

Processes run side by side and share descriptors, pipes and files, so most of what one of them does
may be undone by another.  Two things last, whatever the programs are.  What has been written to an
output stays written, and later writes come behind it (`run_writes`, `writes_prefix`).  And a
process that has ended, and that no other process may wait for, keeps its ending (`endingOf_run`).
-/

variable (programs : Image -> Activity)

/-! ## Writes -/

section Upkeep

variable (world : World)

@[simp] theorem setProcess_writes (process : Process) :
    (setProcess world process).writes = world.writes := rfl

@[simp] theorem sweep_writes (closed : List Nat) :
    (sweep world closed).writes = world.writes := by
  unfold sweep
  dsimp only
  split <;> rfl

@[simp] theorem finish_writes (process : Process) (ending : Ending) :
    (finish world process ending).writes = world.writes := by
  unfold finish
  exact sweep_writes _ _

@[simp] theorem sendTo_writes (process : Process) (signal : Nat) :
    (sendTo world process signal).writes = world.writes := by
  unfold sendTo doom
  repeat' split
  all_goals rfl

end Upkeep

/-- One write is added at most. -/
theorem Effect.writes {world later : World} {process : Process}
    (effect : Effect world process later) :
    ∃ more, later.writes = more ++ world.writes ∧ more.length ≤ 1 := by
  cases effect with
  | gentle writes next processes => exact ⟨[], writes, Nat.zero_le 1⟩
  | written output text left => exact ⟨[(output, text)], left ▸ rfl, Nat.le_refl 1⟩
  | rewired rewired closed number parent ending left =>
      exact ⟨[], by rw [left, sweep_writes, setProcess_writes]; rfl, Nat.zero_le 1⟩
  | awaited child member parent left => exact ⟨[], left ▸ rfl, Nat.zero_le 1⟩
  | sent target member signal left =>
      exact ⟨[], by rw [left, sendTo_writes, setProcess_writes]; rfl, Nat.zero_le 1⟩

theorem advance_writes (world : World) (process : Process) :
    ∃ more, (advance programs world process).writes = more ++ world.writes ∧ more.length ≤ 1 := by
  cases activity : process.activity with
  | finished ending =>
      refine ⟨[], ?_, Nat.zero_le 1⟩
      simp only [advance, activity, finish_writes, List.nil_append]
  | fork child resume =>
      refine ⟨[], ?_, Nat.zero_le 1⟩
      simp only [advance, activity, setProcess_writes, fork, List.nil_append]
      split <;> rfl
  | call request resume =>
      rcases advance_call world process programs activity with ⟨later, acting, effect, _, _, left⟩
      rcases effect.writes with ⟨more, added, one⟩
      refine ⟨more, ?_, one⟩
      rcases left with onward | ⟨ending, ended⟩
      · rw [onward, setProcess_writes, added]
      · rw [ended, finish_writes, added]

/-- A run adds no more writes than it answers requests, and changes none that were made before. -/
theorem run_writes (bound : Nat) (world : World) :
    ∃ more, (run programs bound world).writes = more ++ world.writes ∧ more.length ≤ bound := by
  induction bound generalizing world with
  | zero => exact ⟨[], rfl, Nat.le_refl 0⟩
  | succ bound ih =>
      rw [run]
      cases next? world with
      | none => exact ⟨[], rfl, Nat.zero_le _⟩
      | some process =>
          rcases advance_writes programs world process with ⟨first, made, one⟩
          rcases ih (advance programs world process) with ⟨others, later, few⟩
          refine ⟨others ++ first, ?_, ?_⟩
          · exact later.trans (by rw [made, List.append_assoc])
          · rw [List.length_append]
            omega

/-- A run may be made in two parts. -/
theorem run_add (first second : Nat) (world : World) :
    run programs (first + second) world = run programs second (run programs first world) := by
  induction first generalizing world with
  | zero => rw [Nat.zero_add, run]
  | succ first ih =>
      rw [Nat.succ_add, run, run]
      cases stopped : next? world with
      | some process => exact ih (advance programs world process)
      | none =>
          cases second with
          | zero => rfl
          | succ second => simp only [run, stopped]

/-- What has been written at any time comes first in what is written by a later one. -/
theorem writes_prefix (world : World) {bound later : Nat} (before : bound ≤ later) :
    (run programs bound world).writes.reverse <+: (run programs later world).writes.reverse := by
  rcases Nat.le.dest before with ⟨rest, rfl⟩
  rcases run_writes programs rest (run programs bound world) with ⟨more, added, _⟩
  rw [run_add, added, List.reverse_append]
  exact List.prefix_append _ _

/-! ## Endings -/

/-- There is a process that no other process started, and how it may have ended.  No other process
is taken for it, and none has a number by which it could have started it. -/
structure Standing (number : Nat) (allowed : Option Ending -> Prop) (world : World) : Prop where
  below : number < world.nextProcess
  positive : ∀ process ∈ world.processes, 0 < process.number
  present : ∃ process ∈ world.processes, process.number = number
  unique : ∀ process ∈ world.processes, ∀ other ∈ world.processes, process.number = number ->
    other.number = number -> process = other
  stands : ∀ process ∈ world.processes, process.number = number ->
    process.parent = 0 ∧ allowed process.ending

/-- A process may do as it likes if it is another one, or if all is allowed. -/
def Free (number : Nat) (allowed : Option Ending -> Prop) (process : Process) : Prop :=
  process.number = number -> process.parent = 0 ∧ ∀ ending?, allowed ending?

namespace Standing

variable {number : Nat} {allowed : Option Ending -> Prop} {world later : World}

/-- Processes may change that keep their numbers, as long as the one in question stays as it may
be. -/
theorem map (standing : Standing number allowed world) {change : Process -> Process}
    (processes : later.processes = world.processes.map change)
    (next : later.nextProcess = world.nextProcess)
    (numbers : ∀ process, (change process).number = process.number)
    (kept : ∀ process, process.number = number -> process.parent = 0 -> allowed process.ending ->
      (change process).parent = 0 ∧ allowed (change process).ending) :
    Standing number allowed later where
  below := next ▸ standing.below
  positive process member := by
    rw [processes] at member
    rcases List.mem_map.mp member with ⟨before, inside, rfl⟩
    exact numbers before ▸ standing.positive before inside
  present := by
    rcases standing.present with ⟨process, inside, same⟩
    exact ⟨change process, processes ▸ List.mem_map_of_mem inside, (numbers process).trans same⟩
  unique process member other otherMember same otherSame := by
    rw [processes] at member otherMember
    rcases List.mem_map.mp member with ⟨before, inside, rfl⟩
    rcases List.mem_map.mp otherMember with ⟨otherBefore, otherInside, rfl⟩
    exact congrArg change (standing.unique before inside otherBefore otherInside
      ((numbers before).symm.trans same) ((numbers otherBefore).symm.trans otherSame))
  stands process member same := by
    rw [processes] at member
    rcases List.mem_map.mp member with ⟨before, inside, rfl⟩
    have own : before.number = number := (numbers before).symm.trans same
    have was := standing.stands before inside own
    exact kept before own was.1 was.2

theorem of_alike (standing : Standing number allowed world)
    (alike : Alike world.processes later.processes)
    (next : later.nextProcess = world.nextProcess) : Standing number allowed later := by
  rcases alike with ⟨change, processes, same⟩
  refine standing.map processes next (fun process => (same process).1)
    (fun process _ parent may => ?_)
  rw [(same process).2.1, (same process).2.2]
  exact ⟨parent, may⟩

theorem setProcess (standing : Standing number allowed world) {process : Process}
    (may : process.number = number -> process.parent = 0 ∧ allowed process.ending) :
    Standing number allowed (setProcess world process) := by
  refine standing.map rfl rfl (fun before => ?_) (fun before same parent was => ?_)
  · split
    · next equal => exact equal.symm
    · rfl
  · split
    · next equal => exact may (equal.symm.trans same)
    · exact ⟨parent, was⟩

theorem sweep (standing : Standing number allowed world) (closed : List Nat) :
    Standing number allowed (sweep world closed) := by
  unfold Kernel.sweep
  dsimp only
  split
  · exact standing
  · exact standing.of_alike (.wake rfl) rfl

theorem sendTo (standing : Standing number allowed world) {target : Process}
    (may : target.number = number -> target.parent = 0 ∧ allowed target.ending) (signal : Nat) :
    Standing number allowed (sendTo world target signal) := by
  unfold Kernel.sendTo
  split
  · exact standing
  · split
    · exact standing
    · refine Standing.of_alike (standing.setProcess ?_) (.wake rfl) rfl
      exact may
    · split
      · unfold doom
        split
        · exact standing
        · exact standing.setProcess may
      · exact standing

/-- A process ends that is free to do so. -/
theorem finish (standing : Standing number allowed world) {process : Process}
    (free : Free number allowed process) (how : Ending) :
    Standing number allowed (finish world process how) := by
  unfold Kernel.finish
  dsimp only
  refine Standing.of_alike (Standing.sweep ?_ _) (.wake rfl) rfl
  refine Standing.map (standing.setProcess ?_) rfl rfl (fun before => ?_)
    (fun before _ parent was => ?_)
  · exact fun same => ⟨(free same).1, (free same).2 _⟩
  · repeat' split
    all_goals rfl
  · repeat' split
    all_goals first
      | exact ⟨rfl, was⟩
      | exact ⟨parent, was⟩

/-- A process that is started is another one. -/
theorem fork (standing : Standing number allowed world) (process : Process) (child : Activity) :
    Standing number allowed (fork world process child).1 := by
  unfold Kernel.fork
  split
  · exact standing
  · -- What has the number was there before.
    have before {started new : Process} (member : started ∈ world.processes ++ [new])
        (fresh : new.number = world.nextProcess) (same : started.number = number) :
        started ∈ world.processes := by
      rcases List.mem_append.mp member with old | added
      · exact old
      · rw [List.mem_singleton.mp added, fresh] at same
        exact absurd same (Nat.ne_of_gt standing.below)
    constructor
    · exact Nat.lt_succ_of_lt standing.below
    · intro started member
      rcases List.mem_append.mp member with old | added
      · exact standing.positive started old
      · rw [List.mem_singleton.mp added]
        exact Nat.zero_lt_of_lt standing.below
    · rcases standing.present with ⟨process, inside, same⟩
      exact ⟨process, List.mem_append_left _ inside, same⟩
    · intro started member other otherMember same otherSame
      exact standing.unique started (before member rfl same) other
        (before otherMember rfl otherSame) same otherSame
    · intro started member same
      exact standing.stands started (before member rfl same) same

/-- No request changes what must stay. -/
theorem effect (standing : Standing number allowed world) {process : Process}
    (member : process ∈ world.processes) (effect : Effect world process later) :
    Standing number allowed later := by
  cases effect with
  | gentle writes next processes => exact standing.of_alike processes next
  | written output text left => exact left ▸ standing.of_alike (.refl _) rfl
  | rewired rewired closed same parent ending left =>
      rw [left]
      refine (standing.setProcess fun own => ?_).sweep closed
      rw [parent, ending]
      exact standing.stands process member (same.symm.trans own)
  | sent target targetMember signal left =>
      rw [left]
      exact (standing.setProcess (standing.stands process member)).sendTo
        (standing.stands target targetMember) signal
  | awaited child childMember parent left =>
      -- A process that is waited for has a parent, and the one in question has none.
      have distinct : child.number ≠ number := by
        intro same
        have positive := standing.positive process member
        rw [← parent, (standing.stands child childMember same).1] at positive
        exact Nat.lt_irrefl 0 positive
      have before {other : Process} (inside : other ∈ later.processes) :
          other ∈ world.processes := by
        rw [left] at inside
        exact (List.mem_filter.mp inside).1
      constructor
      · exact left ▸ standing.below
      · exact fun other inside => standing.positive other (before inside)
      · rcases standing.present with ⟨process, inside, same⟩
        refine ⟨process, left ▸ List.mem_filter.mpr ⟨inside, ?_⟩, same⟩
        rw [same]
        simpa using fun equal => distinct equal.symm
      · exact fun one inside other otherInside =>
          standing.unique one (before inside) other (before otherInside)
      · exact fun other inside => standing.stands other (before inside)

end Standing

variable {number : Nat} {allowed : Option Ending -> Prop}

/-- A step of a process that is free changes nothing that must stay. -/
theorem advance_standing {world : World} (standing : Standing number allowed world)
    {process : Process} (member : process ∈ world.processes)
    (free : Free number allowed process) :
    Standing number allowed (advance programs world process) := by
  have now : Standing number allowed { world with now := Nat.max world.now process.time } :=
    standing.of_alike (.refl _) rfl
  cases activity : process.activity with
  | finished how =>
      simp only [advance, activity]
      exact now.finish free how
  | fork child resume =>
      simp only [advance, activity]
      refine (now.fork process child).setProcess fun same => ?_
      exact ⟨(free same).1, (free same).2 _⟩
  | call request resume =>
      rcases advance_call world process programs activity with
        ⟨later, acting, effect, same, parent, left⟩
      have kept := now.effect member effect
      have actingFree : Free number allowed acting := by
        intro own
        have was := free (same.symm.trans own)
        rcases parent with equal | ⟨stored, inside, storedSame, equal⟩
        · exact ⟨equal.trans was.1, was.2⟩
        · exact ⟨equal ▸ (kept.stands stored inside (storedSame.trans own)).1, was.2⟩
      rcases left with onward | ⟨how, last⟩
      · rw [onward]
        exact kept.setProcess fun own => ⟨(actingFree own).1, (actingFree own).2 _⟩
      · rw [last]
        exact kept.finish actingFree how

/-- The process that goes on next is one that has not ended. -/
theorem next?_alive {world : World} {process : Process} (next : next? world = some process) :
    process ∈ world.processes ∧ process.ending = none := by
  have picked := Lists.foldl_eq_some (P := fun process => process.ending = none)
    (fun best value => ?_) next
  · exact picked.resolve_left (by simp)
  · split
    · exact Or.inl rfl
    · next able =>
        have alive : value.ending = none := by
          simp only [isAlive, Bool.or_eq_true, not_or, Bool.not_eq_true', Bool.not_eq_false,
            Option.isNone_iff_eq_none] at able
          exact able.2
        split
        · split
          · exact Or.inr ⟨rfl, alive⟩
          · exact Or.inl rfl
        · exact Or.inr ⟨rfl, alive⟩

/-- A run changes nothing that must stay, if all is allowed as long as the process has not ended. -/
theorem run_standing (free : allowed none -> ∀ ending?, allowed ending?) (bound : Nat)
    {world : World} (standing : Standing number allowed world) :
    Standing number allowed (run programs bound world) := by
  induction bound generalizing world with
  | zero => exact standing
  | succ bound ih =>
      rw [run]
      cases next : next? world with
      | none => exact standing
      | some process =>
          have able := next?_alive next
          refine ih (advance_standing programs standing able.1 fun own => ?_)
          have was := standing.stands process able.1 own
          exact ⟨was.1, free (able.2 ▸ was.2)⟩

/-- An ending is final: how the first process of a machine has ended at any time is what the machine
tells about it at any later time. -/
theorem endingOf_run {world : World} {ending : Ending} {bound later : Nat}
    (standing : Standing number (fun _ => True) world) (before : bound ≤ later)
    (ended : (process? (run programs bound world) number).bind Process.ending = some ending) :
    endingOf (run programs later world) number = ending := by
  rcases Option.bind_eq_some_iff.mp ended with ⟨process, found, was⟩
  have member : process ∈ (run programs bound world).processes := List.mem_of_find?_eq_some found
  have own := process?_number found
  have root := run_standing programs (fun _ _ => trivial) bound standing
  have settled : Standing number (· = some ending) (run programs bound world) :=
    ⟨root.below, root.positive, root.present, root.unique, fun other inside same => by
      rw [root.unique other inside process member same own]
      exact ⟨(root.stands process member own).1, was⟩⟩
  rcases Nat.le.dest before with ⟨rest, rfl⟩
  have final := run_standing programs (fun alive => nomatch alive) rest settled
  rw [← run_add] at final
  rcases final.present with ⟨last, inside, same⟩
  cases told : process? (run programs (bound + rest) world) number with
  | none =>
      have absent := List.find?_eq_none.mp told last inside
      simp [same] at absent
  | some other =>
      have still := final.stands other (List.mem_of_find?_eq_some told) (process?_number told)
      simp [endingOf, told, still.2]

end Kernel
end Machine
end AstLink
