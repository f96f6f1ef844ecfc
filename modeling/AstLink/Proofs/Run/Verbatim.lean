import AstLink.Proofs.Run.Conduct

namespace AstLink

/-!
A command is run as it stands, or not at all.

An invocation's command is built twice: as a list of tokens, and as the program and the arguments
that are handed to the operating system.  The second cannot hold a token with a NUL in it and has a
marker there instead.  So both agree at every place but those (`words_command`), and where they
differ the command is refused before anything is started.  The main statement is
`command_verbatim`.
-/

namespace Command

theorem hasNul_eq_true_iff (bytes : Bytes) : Bytes.hasNul bytes = true ↔ Bytes.nul ∈ bytes :=
  List.contains_iff_mem

theorem word_eq (bytes : Bytes) :
    word bytes = if Bytes.nul ∈ bytes then nulMarker else bytes := by
  unfold word
  by_cases held : Bytes.nul ∈ bytes
  · rw [if_pos ((hasNul_eq_true_iff bytes).mpr held), if_pos held]
  · rw [if_neg (fun holds => held ((hasNul_eq_true_iff bytes).mp holds)), if_neg held]

/-- The marker holds no NUL itself, so it is never mistaken for the word that it stands for. -/
theorem word_eq_self_iff (bytes : Bytes) : word bytes = bytes ↔ Bytes.nul ∉ bytes := by
  rw [word_eq]
  constructor
  · intro kept held
    rw [if_pos held] at kept
    rw [← kept] at held
    exact absurd held (by decide +kernel)
  · exact fun whole => if_neg whole

end Command

namespace Invocation

variable {invocation : Invocation}

/-- Word by word the command that is handed over is made of the tokens. -/
theorem words_command (invocation : Invocation) :
    invocation.command.words = invocation.argv.map Command.word := rfl

theorem words_command_eq_iff (invocation : Invocation) :
    invocation.command.words = invocation.argv ↔
      ∀ token ∈ invocation.argv, Bytes.nul ∉ token := by
  rw [words_command]
  constructor
  · intro same token member
    have kept := List.map_inj_left.mp (same.trans (List.map_id _).symm) token member
    exact (Command.word_eq_self_iff token).mp kept
  · intro whole
    have kept := fun token member => (Command.word_eq_self_iff token).mpr (whole token member)
    exact (List.map_congr_left kept).trans (List.map_id _)

theorem heldNul_command_iff (invocation : Invocation) :
    invocation.command.heldNul = true ↔ ∃ token ∈ invocation.argv, Bytes.nul ∈ token := by
  refine List.any_eq_true.trans (exists_congr fun token => and_congr_right fun _ => ?_)
  exact Command.hasNul_eq_true_iff token

/-- With a NUL in a token nothing is asked of the host. -/
theorem start_of_heldNul (held : ∃ token ∈ invocation.argv, Bytes.nul ∈ token) (host : Host) :
    invocation.command.start host = .error Fault.nulByte :=
  if_pos (invocation.heldNul_command_iff.mpr held)

/-- With a NUL a run does no more than announce itself. -/
theorem run_of_heldNul (held : ∃ token ∈ invocation.argv, Bytes.nul ∈ token) (host : Host)
    (sink : Stream.Sink) :
    ∃ error, invocation.launch host = .error error ∧
      invocation.run host sink = ⟨[.log invocation.announcement], .error error⟩ := by
  cases launched : invocation.launch host with
  | error error => exact ⟨error, rfl, run_of_unlaunched sink launched⟩
  | ok child =>
      have started := (launch_eq_ok_iff.mp launched).2
      rw [start_of_heldNul held] at started
      cases started

/-- What a run has started is the whole command, and it held no NUL. -/
theorem words_of_started {host : Host} {sink : Stream.Sink} {command : Command}
    (started : command ∈ (invocation.run host sink).started) :
    command.words = invocation.argv := by
  cases launched : invocation.launch host with
  | error error =>
      rw [run_of_unlaunched sink launched] at started
      cases started
  | ok child =>
      have whole : ∀ token ∈ invocation.argv, Bytes.nul ∉ token := by
        intro token member held
        have refused := start_of_heldNul ⟨token, member, held⟩ host
        rw [(launch_eq_ok_iff.mp launched).2] at refused
        cases refused
      rw [started_of_launched launched] at started
      rw [List.mem_singleton.mp started]
      exact (words_command_eq_iff invocation).mpr whole

end Invocation

/-- What a run does with a command that cannot be handed over as it stands. -/
structure Run.RefusesNul (invocation : Invocation) (host : Host) (report : Run.Report) : Prop where
  started : report.started = []
  streams : report.streams = []
  actions : report.actions = [.log invocation.announcement]
  /-- It says that the compiler could not be started. -/
  outcome : host.connect = .ok () ->
    report.outcome = .error (.launch (Text.shown invocation.compiler.bytes) Fault.nulByte)
  /-- Where there is no pipe for its output, this has been found out before. -/
  unconnected : ∀ fault, host.connect = .error fault -> report.outcome = .error (.pipe fault)

/-- The command of an invocation is its tokens, and nothing else is ever started. -/
structure Invocation.Verbatim (invocation : Invocation) : Prop where
  length : invocation.command.words.length = invocation.argv.length
  /-- A marker stands for each token that holds a NUL. -/
  words : ∀ place : Nat, invocation.command.words[place]? =
    (invocation.argv[place]?).map (fun token =>
      if Bytes.nul ∈ token then Text.bytes "<string-with-nul>" else token)
  whole : invocation.command.words = invocation.argv ↔
    ∀ token ∈ invocation.argv, Bytes.nul ∉ token
  placeholder : ∀ placeholder, { invocation with placeholder }.command = invocation.command
  started : ∀ host sink, ∀ command ∈ (invocation.run host sink).started,
    command.words = invocation.argv
  refused : (∃ token ∈ invocation.argv, Bytes.nul ∈ token) -> ∀ host sink,
    Run.RefusesNul invocation host (invocation.run host sink)

/-- The command that is handed to the operating system has the tokens of the invocation, but for a
marker in place of each that holds a NUL; the placeholder does not matter to it.  A command with
such a token is refused: the run names the compiler and does nothing but log that it begins.  So
whatever a run starts has exactly the words of the invocation. -/
theorem command_verbatim (invocation : Invocation) : invocation.Verbatim where
  length := by rw [invocation.words_command, List.length_map]
  words := fun place => by
    rw [invocation.words_command, List.getElem?_map, funext Command.word_eq]
    rfl
  whole := invocation.words_command_eq_iff
  placeholder := fun _ => rfl
  started := fun _ _ _ started => Invocation.words_of_started started
  refused := fun held host sink => by
    rcases Invocation.run_of_heldNul held host sink with ⟨error, launch, same⟩
    rw [same]
    refine ⟨rfl, rfl, rfl, fun connected => ?_, fun fault unconnected => ?_⟩
    · rw [Invocation.launch_of_refused connected (Invocation.start_of_heldNul held host)] at launch
      exact congrArg Except.error (Except.error.inj launch).symm
    · rw [Invocation.launch_of_unconnected unconnected] at launch
      exact congrArg Except.error (Except.error.inj launch).symm

/-- A library with a NUL in its name. -/
theorem command_verbatim_nul :
    let invocation : Invocation := ⟨⟨Text.bytes "cc"⟩, ⟨Text.bytes "merged.ast"⟩, ⟨[Bytes.nul]⟩,
      [⟨Text.bytes "x.ast"⟩, ⟨[0x61, Bytes.nul]⟩]⟩
    let host : Host := { start := fun _ => .ok (Child.ofWrites 1 [] (.exited 0)) }
    let report := invocation.run host {}
    report.started = [] ∧ report.outcome = .error (.launch "cc" Fault.nulByte) ∧
      invocation.command.words[8]? = some (Text.bytes "<string-with-nul>") := by
  intro invocation host report
  have verbatim := command_verbatim invocation
  have refused := verbatim.refused ⟨[0x61, Bytes.nul], by decide +kernel, by decide⟩ host {}
  have name : Text.shown invocation.compiler.bytes = "cc" := by decide +kernel
  refine ⟨refused.started, name ▸ refused.outcome rfl, ?_⟩
  rw [verbatim.words 8]
  rfl

end AstLink
