import AstLink.Machine.Kernel
import AstLink.Proofs.Lists

namespace AstLink
namespace Machine

/-!
What a request can do.

A machine knows some forty requests, and each may fail in several ways.  What other processes and
the two outputs see of them comes to five things (`Effect`): most requests leave all processes as
they are, but for waking some; one writes to an output; some give the process that makes them other
descriptors; one takes the ending of a process; and one sends a signal.  What is to be said about
the machine step by step is said for these five, and needs nothing more of the requests.
-/

/-- The machine that a step leaves. -/
def Step.world : Step -> World
  | .answer world _ _ => world
  | .wait world _ => world
  | .finish world _ _ => world
  | .become world _ _ => world

/-- The process that a step leaves, if it is another one than before. -/
def Step.process (before : Process) : Step -> Process
  | .answer _ process _ => process
  | .wait _ _ => before
  | .finish _ process _ => process
  | .become _ process _ => process

/-- The process that goes on after a step is the one that took it. -/
structure Step.Own (before : Process) (step : Step) : Prop where
  number : (step.process before).number = before.number
  /-- It has the same parent, or it is as the machine has it. -/
  parent : (step.process before).parent = before.parent ∨
    step.process before ∈ step.world.processes

namespace Kernel

/-- Processes that are the same but for what they do, when, and for what they wait. -/
def Alike (before after : List Process) : Prop :=
  ∃ change : Process -> Process, after = before.map change ∧ ∀ process,
    (change process).number = process.number ∧ (change process).parent = process.parent ∧
      (change process).ending = process.ending

theorem Alike.refl (processes : List Process) : Alike processes processes :=
  ⟨id, (List.map_id processes).symm, fun _ => ⟨rfl, rfl, rfl⟩⟩

theorem Alike.wake {processes : List Process} {world : World} {concerns : Process -> Bool}
    {reason : Reason} (same : world.processes = processes) :
    Alike processes (wake world concerns reason).processes := by
  refine ⟨_, congrArg (List.map _) same, fun process => ?_⟩
  split
  · exact ⟨rfl, rfl, rfl⟩
  · exact ⟨rfl, rfl, rfl⟩

/-- A step that only its own process gets to know, apart from those that it wakes. -/
structure Gentle (world : World) (process : Process) (step : Step) : Prop where
  writes : step.world.writes = world.writes
  next : step.world.nextProcess = world.nextProcess
  processes : Alike world.processes step.world.processes
  own : step.Own process

/-- What becomes of the machine in a step of a process. -/
inductive Effect (world : World) (process : Process) (later : World) : Prop
  /-- Nothing that concerns others, but that some may be woken. -/
  | gentle (writes : later.writes = world.writes) (next : later.nextProcess = world.nextProcess)
      (processes : Alike world.processes later.processes)
  /-- Something is written to an output. -/
  | written (output : Descriptor) (text : Bytes)
      (left : later = { world with writes := (output, text) :: world.writes })
  /-- The process gets other descriptors. -/
  | rewired (rewired : Process) (closed : List Nat) (number : rewired.number = process.number)
      (parent : rewired.parent = process.parent) (ending : rewired.ending = process.ending)
      (left : later = sweep (setProcess world rewired) closed)
  /-- The ending of a process that it started is taken. -/
  | awaited (child : Process) (member : child ∈ world.processes)
      (parent : child.parent = process.number)
      (left : later = { world with
        processes := world.processes.filter (fun other => other.number != child.number) })
  /-- A signal is sent to a process. -/
  | sent (target : Process) (member : target ∈ world.processes) (signal : Nat)
      (left : later = sendTo (setProcess world process) target signal)

variable (world : World) (process : Process)

/-! ## Requests about files and pipes -/

theorem read_gentle (line : Bool) (descriptor count : Nat) :
    Gentle world process (read world process line descriptor count) := by
  unfold read
  dsimp only
  repeat' split
  all_goals first
    | exact ⟨rfl, rfl, .refl _, rfl, Or.inl rfl⟩
    | exact ⟨rfl, rfl, .wake rfl, rfl, Or.inl rfl⟩

theorem write_effect (descriptor : Nat) (text : Chars) :
    Effect world process (write world process descriptor text).world := by
  unfold write
  dsimp only
  repeat' split
  all_goals first
    | exact .gentle rfl rfl (.refl _)
    | exact .gentle rfl rfl (.wake rfl)
    | exact .written _ _ rfl

theorem write_own (descriptor : Nat) (text : Chars) :
    (write world process descriptor text).Own process := by
  unfold write
  dsimp only
  repeat' split
  all_goals exact ⟨rfl, Or.inl rfl⟩

theorem seek_gentle (descriptor : Nat) (offset : Int) (anchor : Anchor) :
    Gentle world process (seek world process descriptor offset anchor) := by
  unfold seek
  dsimp only
  repeat' split
  all_goals exact ⟨rfl, rfl, .refl _, rfl, Or.inl rfl⟩

theorem openEnd_gentle (opening : Opening) (pipe : Nat) :
    Gentle world process (openEnd world process opening pipe) := by
  unfold openEnd
  dsimp only
  repeat' split
  all_goals first
    | exact ⟨rfl, rfl, .refl _, rfl, Or.inl rfl⟩
    | exact ⟨rfl, rfl, .wake rfl, rfl, Or.inl rfl⟩

theorem openNode_gentle (opening : Opening) (place : Place) (node : Node) :
    Gentle world process (openNode world process opening place node) := by
  unfold openNode
  dsimp only
  repeat' split
  all_goals first
    | exact ⟨rfl, rfl, .refl _, rfl, Or.inl rfl⟩
    | exact openEnd_gentle world process _ _

/-- Files do not matter. -/
theorem Gentle.of_tree {world : World} {process : Process} {step : Step} {tree : Tree}
    (gentle : Gentle { world with tree } process step) : Gentle world process step :=
  ⟨gentle.writes, gentle.next, gentle.processes, gentle.own⟩

theorem openFile_gentle (path : Chars) (opening : Opening) :
    Gentle world process (openFile world process path opening) := by
  unfold openFile
  dsimp only
  repeat' split
  all_goals first
    | exact ⟨rfl, rfl, .refl _, rfl, Or.inl rfl⟩
    | exact openNode_gentle world process _ _ _
    | exact .of_tree (openNode_gentle _ process _ _ _)

theorem ofFiles_gentle (result : Except Obstacle Tree) :
    Gentle world process (ofFiles world process result) := by
  cases result with
  | ok tree => exact ⟨rfl, rfl, .refl _, rfl, Or.inl rfl⟩
  | error obstacle => exact ⟨rfl, rfl, .refl _, rfl, Or.inl rfl⟩

/-! ## Requests about processes -/

theorem Gentle.effect {world : World} {process : Process} {step : Step}
    (gentle : Gentle world process step) : Effect world process step.world :=
  .gentle gentle.writes gentle.next gentle.processes

theorem mem_of_foldl_earlier {children : List Process} {child : Process}
    (found : children.foldl earlier none = some child) : child ∈ children := by
  have picked := Lists.foldl_eq_some (P := fun _ => True) (fun best value => ?_) found
  · exact (picked.resolve_left (by simp)).1
  · cases best with
    | none => exact Or.inr ⟨rfl, trivial⟩
    | some other =>
        unfold earlier
        dsimp only
        split
        · exact Or.inr ⟨rfl, trivial⟩
        · exact Or.inl rfl

theorem waitFor_effect (wanted : Option Nat) (patient : Bool) :
    Effect world process (waitFor world process wanted patient).world := by
  unfold waitFor
  dsimp only
  split
  · exact .gentle rfl rfl (.refl _)
  · split
    · next child found =>
        have ended := (List.mem_filter.mp (mem_of_foldl_earlier found)).1
        have own := List.mem_filter.mp ended
        simp only [Bool.and_eq_true, decide_eq_true_eq] at own
        exact .awaited child own.1 own.2.1 rfl
    · repeat' split
      all_goals exact .gentle rfl rfl (.refl _)

theorem waitFor_own (wanted : Option Nat) (patient : Bool) :
    (waitFor world process wanted patient).Own process := by
  unfold waitFor
  dsimp only
  repeat' split
  all_goals exact ⟨rfl, Or.inl rfl⟩

theorem execute_effect (path : Chars) (words : List Chars) (environment : List (Chars × Chars)) :
    Effect world process (execute world process path words environment).world := by
  unfold execute
  dsimp only
  split
  · exact .gentle rfl rfl (.refl _)
  · refine .rewired _ _ ?_ ?_ ?_ rfl
    all_goals rfl

theorem execute_own (path : Chars) (words : List Chars) (environment : List (Chars × Chars)) :
    (execute world process path words environment).Own process := by
  unfold execute
  dsimp only
  split
  · exact ⟨rfl, Or.inl rfl⟩
  · exact ⟨rfl, Or.inl rfl⟩

/-! ## All requests -/

/-- What a request does is one of the five. -/
theorem attempt_effect (request : Request) :
    Effect world process (attempt world process request).world := by
  cases request with
  | read descriptor count => exact (read_gentle world process false descriptor count).effect
  | readLine descriptor => exact (read_gentle world process true descriptor pipeRoom).effect
  | write descriptor text => exact write_effect world process descriptor text
  | seek descriptor offset anchor =>
      exact (seek_gentle world process descriptor offset anchor).effect
  | openFile path opening => exact (openFile_gentle world process path opening).effect
  | wait wanted patient => exact waitFor_effect world process wanted patient
  | execute path words environment => exact execute_effect world process path words environment
  | makeDirectory path mode | changeMode path mode | changeTime path time | removeDirectory path
  | unlink path | rename source target | link source target | symbolicLink target path =>
      exact (ofFiles_gentle world process _).effect
  | close descriptor =>
      unfold attempt
      dsimp only
      split
      · exact .gentle rfl rfl (.refl _)
      · refine .rewired _ _ ?_ ?_ ?_ rfl
        all_goals rfl
  | duplicate source target =>
      unfold attempt
      dsimp only
      repeat' split
      · exact .gentle rfl rfl (.refl _)
      · exact .gentle rfl rfl (.refl _)
      · refine .rewired _ _ ?_ ?_ ?_ rfl
        all_goals rfl
  | send signal target =>
      unfold attempt
      dsimp only
      cases found : process? world target.toNat with
      | none => exact .gentle rfl rfl (.refl _)
      | some other =>
          have member : other ∈ world.processes := List.mem_of_find?_eq_some found
          dsimp only
          split
          · exact .gentle rfl rfl (.refl _)
          · split
            · exact .gentle rfl rfl (.refl _)
            · repeat' split
              all_goals first
                | exact .sent other member signal rfl
                | exact .gentle rfl rfl (.refl _)
  | _ =>
      unfold attempt
      dsimp only
      repeat' split
      all_goals exact .gentle rfl rfl (.refl _)

theorem process?_number {world : World} {number : Nat} {process : Process}
    (found : process? world number = some process) : process.number = number := by
  have fits := List.find?_some found
  exact of_decide_eq_true fits

theorem attempt_own (request : Request) : (attempt world process request).Own process := by
  cases request with
  | read descriptor count => exact (read_gentle world process false descriptor count).own
  | readLine descriptor => exact (read_gentle world process true descriptor pipeRoom).own
  | write descriptor text => exact write_own world process descriptor text
  | seek descriptor offset anchor => exact (seek_gentle world process descriptor offset anchor).own
  | openFile path opening => exact (openFile_gentle world process path opening).own
  | wait wanted patient => exact waitFor_own world process wanted patient
  | execute path words environment => exact execute_own world process path words environment
  | makeDirectory path mode | changeMode path mode | changeTime path time | removeDirectory path
  | unlink path | rename source target | link source target | symbolicLink target path =>
      exact (ofFiles_gentle world process _).own
  | send signal target =>
      unfold attempt
      dsimp only
      repeat' split
      -- The signal may have been for the process itself, which is then looked up again.
      all_goals first
        | exact ⟨rfl, Or.inl rfl⟩
        | have again := ‹process? (sendTo _ _ _) _ = _›
          exact ⟨process?_number again, Or.inr (List.mem_of_find?_eq_some again)⟩
  | _ =>
      unfold attempt
      dsimp only
      repeat' split
      all_goals exact ⟨rfl, Or.inl rfl⟩

/-! ## Steps of the machine -/

/-- A process that makes a request has on others the effect of that request, and then it goes on or
ends. -/
theorem advance_call (programs : Image -> Activity) {request : Request}
    {resume : Answer -> Activity} (calls : process.activity = .call request resume) :
    ∃ (later : World) (acting : Process),
      Effect { world with now := Nat.max world.now process.time } process later ∧
        acting.number = process.number ∧
        (acting.parent = process.parent ∨
          ∃ kept ∈ later.processes, kept.number = acting.number ∧ kept.parent = acting.parent) ∧
        (advance programs world process = setProcess later acting ∨
          ∃ ending, advance programs world process = finish later acting ending) := by
  have effect := attempt_effect { world with now := Nat.max world.now process.time } process request
  have own := attempt_own { world with now := Nat.max world.now process.time } process request
  unfold advance
  rw [calls]
  dsimp only
  cases step : attempt { world with now := Nat.max world.now process.time } process request with
  | answer later acting answer =>
      rw [step] at effect own
      refine ⟨later, _, effect, ?_, ?_, Or.inl rfl⟩
      · exact own.number
      · exact own.parent.imp_right fun member => ⟨acting, member, rfl, rfl⟩
  | wait later reason =>
      rw [step] at effect
      refine ⟨later, _, effect, ?_, ?_, Or.inl rfl⟩
      · rfl
      · exact Or.inl rfl
  | finish later acting ending =>
      rw [step] at effect own
      refine ⟨later, acting, effect, own.number, ?_, Or.inr ⟨ending, rfl⟩⟩
      exact own.parent.imp_right fun member => ⟨acting, member, rfl, rfl⟩
  | become later acting image =>
      rw [step] at effect own
      refine ⟨later, _, effect, ?_, ?_, Or.inl rfl⟩
      · exact own.number
      · exact own.parent.imp_right fun member => ⟨acting, member, rfl, rfl⟩

end Kernel
end Machine
end AstLink
