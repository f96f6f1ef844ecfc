import AstLink.Proofs.CommandLine.Acceptance
import AstLink.Proofs.Invocation.Argv
import AstLink.Proofs.Program.ExitCode

namespace AstLink

/-!
Where each word of a command line comes to stand.

The placeholder arrives nowhere.  Two accepted command lines that differ in it alone have the same
command, which is shown in the same way, and lead to runs in which all is the same but the field of
the log that names the placeholder (`Program.SameBesidePlaceholder`).  Every other word after the
name of the program arrives at one place of the command and decides nothing else about it.  The main
statement is `commandLine_traced`.
-/

/-! ## Lists that differ at one place -/

/-- The second list has a new value at one place and is the same as the first everywhere else. -/
structure ChangedAt (place : Nat) (value : Bytes) (before after : List Bytes) : Prop where
  length : after.length = before.length
  there : after[place]? = some value
  only : ∀ other, after[other]? ≠ before[other]? ↔ other = place

theorem changedAt_iff_set (place : Nat) (value : Bytes) (before after : List Bytes) :
    ChangedAt place value before after ↔
      ∃ old, before[place]? = some old ∧ old ≠ value ∧ after = before.set place value := by
  constructor
  · intro changed
    have inside : place < before.length := by
      rw [← changed.length]
      exact (List.getElem?_eq_some_iff.mp changed.there).1
    have moved := (changed.only place).mpr rfl
    rw [changed.there, List.getElem?_eq_getElem inside] at moved
    refine ⟨before[place], List.getElem?_eq_getElem inside,
      fun same => moved (congrArg some same.symm), ?_⟩
    apply List.ext_getElem?
    intro other
    by_cases here : place = other
    · rw [← here, List.getElem?_set_self inside, changed.there]
    · rw [List.getElem?_set_ne here]
      exact Decidable.not_not.mp (fun differ => here ((changed.only other).mp differ).symm)
  · rintro ⟨old, stood, new, rfl⟩
    have inside := (List.getElem?_eq_some_iff.mp stood).1
    refine ⟨List.length_set, List.getElem?_set_self inside, fun other => ?_⟩
    by_cases here : other = place
    · rw [here, List.getElem?_set_self inside, stood]
      exact iff_of_true (fun same => new (Option.some.inj same).symm) rfl
    · rw [List.getElem?_set_ne (Ne.symm here)]
      exact iff_of_false (fun differ => differ rfl) here

/-! ## Words of the command -/

namespace CommandLine

theorem parse_words {words : List Bytes} {line : CommandLine} (accepted : parse words = .ok line) :
    ∃ program compiler target placeholder libraries,
      words = program :: compiler :: target :: placeholder :: libraries ∧
        line = ⟨⟨compiler⟩, ⟨target⟩, ⟨placeholder⟩, libraries.map Path.mk⟩ := by
  rcases (parse_eq_ok_iff words line).mp accepted with
    ⟨program, compiler, target, placeholder, libraries, split, _, built⟩
  exact ⟨program, compiler, target, placeholder, libraries, split, built⟩

/-- An accepted command line whose words are known is known. -/
theorem eq_of_parse {program compiler target placeholder : Bytes} {libraries : List Bytes}
    {line : CommandLine}
    (accepted : parse (program :: compiler :: target :: placeholder :: libraries) = .ok line) :
    line = ⟨⟨compiler⟩, ⟨target⟩, ⟨placeholder⟩, libraries.map Path.mk⟩ := by
  rcases parse_words accepted with ⟨_, _, _, _, _, split, built⟩
  cases split
  exact built

/-- Where in the command a word of the command line arrives, if it does. -/
def arrival? : Nat -> Option Nat
  | 0 => none
  | 1 => some 0
  | 2 => some 4
  | 3 => none
  | library + 4 => some (6 + 2 * library)

variable {words others : List Bytes} {line other : CommandLine}

/-- If a word that arrives in the command is changed, the command is changed where it arrives. -/
theorem argv_changedAt {place arrival : Nat} {value : Bytes}
    (arrives : arrival? place = some arrival) (accepted : parse words = .ok line)
    (accepted' : parse others = .ok other) (changed : ChangedAt place value words others) :
    ChangedAt arrival value line.invocation.argv other.invocation.argv := by
  rcases (changedAt_iff_set _ _ _ _).mp changed with ⟨old, stood, new, rfl⟩
  rcases parse_words accepted with ⟨program, compiler, target, placeholder, libraries, rfl, rfl⟩
  match place, arrives with
  | 1, rfl =>
      rw [eq_of_parse accepted']
      exact (changedAt_iff_set _ _ _ _).mpr ⟨old, stood, new, rfl⟩
  | 2, rfl =>
      rw [eq_of_parse accepted']
      exact (changedAt_iff_set _ _ _ _).mpr ⟨old, stood, new, rfl⟩
  | library + 4, rfl =>
      -- Five words of the command stand before those of the libraries.
      have place : 6 + 2 * library = 2 * library + 1 + 5 := by omega
      rw [eq_of_parse accepted', place]
      refine (changedAt_iff_set _ _ _ _).mpr ⟨old, ?_, new, ?_⟩
      · have there : libraries[library]? = some old := stood
        have behind := Invocation.getElem?_libraryArgs (libraries.map Path.mk) library
        rw [List.getElem?_map, there] at behind
        exact behind
      · have moved := Invocation.libraryArgs_set (libraries.map Path.mk) library ⟨value⟩
        rw [← List.map_set] at moved
        exact congrArg (fun rest => [compiler, Invocation.frontEndFlag, Invocation.headerFlag,
          Invocation.outputFlag, target] ++ rest) moved

/-- Command lines that agree in all words but the placeholder lead to invocations that agree in all
but that. -/
theorem eq_of_agree (accepted : parse words = .ok line) (accepted' : parse others = .ok other)
    (agree : ∀ place, place ≠ 3 -> others[place]? = words[place]?) :
    other.compiler = line.compiler ∧ other.target = line.target ∧
      other.libraries = line.libraries := by
  rcases parse_words accepted with ⟨program, compiler, target, placeholder, libraries, rfl, rfl⟩
  rcases parse_words accepted' with
    ⟨program', compiler', target', placeholder', libraries', rfl, rfl⟩
  have sameLibraries : libraries' = libraries :=
    List.ext_getElem? (fun place => agree (place + 4) (by omega))
  refine ⟨congrArg Path.mk (Option.some.inj (agree 1 (by decide))),
    congrArg Path.mk (Option.some.inj (agree 2 (by decide))), ?_⟩
  rw [sameLibraries]

end CommandLine

/-! ## Runs -/

/-- What is handed to the system is determined by the words of the command. -/
theorem Invocation.command_eq_of_argv {first second : Invocation}
    (same : first.argv = second.argv) : first.command = second.command := by
  have parts := (Invocation.argv_eq_iff first second).mp same
  unfold Invocation.command
  rw [same, parts.1]
  unfold Invocation.compilerArgs
  rw [parts.2.1, parts.2.2]

/-- Two invocations with the same command are announced each in its own way and then run alike. -/
theorem Invocation.run_of_same_argv {first second : Invocation} (same : first.argv = second.argv)
    (host : Host) (sink : Stream.Sink) :
    ∃ rest outcome, first.run host sink = ⟨.log first.announcement :: rest, outcome⟩ ∧
      second.run host sink = ⟨.log second.announcement :: rest, outcome⟩ := by
  have command := Invocation.command_eq_of_argv same
  have compiler := ((Invocation.argv_eq_iff first second).mp same).1
  have launch : first.launch host = second.launch host := by
    rw [Invocation.launch, Invocation.launch, command, compiler]
  unfold Invocation.run
  rw [launch, command]
  cases second.launch host with
  | error error => exact ⟨_, _, rfl, rfl⟩
  | ok child => exact ⟨_, _, rfl, rfl⟩

namespace Program

/-- Whether the beginning of a merge is logged: there is a filter, and it shows that event. -/
def Announced (values : Log.Values) (setting : Option Bytes) (line : CommandLine) : Prop :=
  ∃ filter, Log.Filter.ofSetting? setting values = some filter ∧
    filter.shows line.invocation.announcement = true

/-- Two runs, of which the second was given another placeholder, and that differ in nothing but the
field of the log that names it.  Where the beginning of a merge is not logged, they do not differ at
all. -/
structure SameBesidePlaceholder (values : Log.Values) (setting : Option Bytes)
    (line other : CommandLine) (first second : Report) : Prop where
  started : second.started = first.started
  /-- The bytes written, the places of the flushes, and all answers to these calls. -/
  streams : second.streams = first.streams
  exit : second.exit = first.exit
  unannounced : ¬ Announced values setting line -> second.messages = first.messages
  announced : Announced values setting line -> ∃ command target libraries rest,
    first.messages =
        .log (.running command target libraries (Text.shown line.placeholder.bytes)) :: rest ∧
      second.messages =
        .log (.running command target libraries (Text.shown other.placeholder.bytes)) :: rest

/-- The first event of a run is the first message, if the filter shows it. -/
theorem conclude_messages_cons (filter : Log.Filter) (event : Log.Event) (rest : List Run.Action)
    (outcome : Except MergeError WaitStatus) :
    (conclude filter ⟨.log event :: rest, outcome⟩).messages =
      if filter.shows event then .log event :: (conclude filter ⟨rest, outcome⟩).messages
      else (conclude filter ⟨rest, outcome⟩).messages := by
  simp only [conclude, Run.Report.log, List.filterMap_cons, List.filter_cons]
  split <;> rfl

/-- Invocations with the same command are concluded alike but for the field that names the
placeholder. -/
theorem run_sameBesidePlaceholder {words others : List Bytes} {line other : CommandLine}
    (accepted : CommandLine.parse words = .ok line)
    (accepted' : CommandLine.parse others = .ok other)
    (same : line.invocation.argv = other.invocation.argv) (values : Log.Values)
    (setting : Option Bytes) (host : Host) (sink : Stream.Sink) :
    SameBesidePlaceholder values setting line other (run words setting host sink values)
      (run others setting host sink values) := by
  rcases Invocation.run_of_same_argv same host sink with ⟨rest, outcome, ran, ran'⟩
  cases read : Log.Filter.ofSetting? setting values with
  | none =>
      have breaks := (Log.Filter.ofSetting?_eq_none_iff values setting).mp read
      rw [run_of_breaksDown host sink accepted breaks, run_of_breaksDown host sink accepted' breaks]
      refine ⟨rfl, rfl, rfl, fun _ => rfl, ?_⟩
      rintro ⟨filter, impossible, _⟩
      rw [read] at impossible
      cases impossible
  | some filter =>
      rw [run_of_filter host sink accepted read, run_of_filter host sink accepted' read, ran, ran']
      have announced : Announced values setting line ↔
          filter.shows line.invocation.announcement = true := by
        constructor
        · rintro ⟨own, equal, shown⟩
          rw [read] at equal
          cases equal
          exact shown
        · exact fun shown => ⟨filter, read, shown⟩
      -- Whether an event is shown does not depend on the texts in it.
      have alike : filter.shows other.invocation.announcement =
          filter.shows line.invocation.announcement := rfl
      refine ⟨rfl, rfl, rfl, ?_, ?_⟩
      · intro hidden
        have hides := fun shown => hidden (announced.mpr shown)
        rw [conclude_messages_cons, conclude_messages_cons, alike, if_neg hides, if_neg hides]
      · intro shown
        have shows' := announced.mp shown
        rw [conclude_messages_cons, conclude_messages_cons, alike, if_pos shows', if_pos shows']
        have parts := (Invocation.argv_eq_iff _ _).mp same
        refine ⟨line.invocation.display, Text.shown line.invocation.target.bytes,
          line.invocation.libraries.length, _, rfl, ?_⟩
        rw [Invocation.announcement, Invocation.display, Invocation.display, same, parts.2.1,
          parts.2.2]
        rfl

end Program

/-- Command lines that differ in the placeholder, which arrives nowhere. -/
structure Program.PlaceholderUnseen (words others : List Bytes) (line other : CommandLine) :
    Prop where
  argv : other.invocation.argv = line.invocation.argv
  command : other.invocation.command = line.invocation.command
  display : other.invocation.display = line.invocation.display
  /-- Under any filter, on any host and with any output. -/
  runs : ∀ values setting host sink, Program.SameBesidePlaceholder values setting line other
    (Program.run words setting host sink values) (Program.run others setting host sink values)

/-- Where the words of two command lines arrive, as far as the lines differ. -/
structure CommandLine.Traced (words others : List Bytes) (line other : CommandLine) : Prop where
  placeholder : (∀ place, place ≠ 3 -> others[place]? = words[place]?) ->
    Program.PlaceholderUnseen words others line other
  compiler : ∀ value, ChangedAt 1 value words others ->
    ChangedAt 0 value line.invocation.argv other.invocation.argv
  target : ∀ value, ChangedAt 2 value words others ->
    ChangedAt 4 value line.invocation.argv other.invocation.argv
  library : ∀ library value, ChangedAt (4 + library) value words others ->
    ChangedAt (6 + 2 * library) value line.invocation.argv other.invocation.argv

/-- The placeholder arrives nowhere: command lines that differ in it alone have the same command,
shown in the same way, and lead to runs that differ at most in the log's mention of it.  The
compiler, the target and each library arrive at one place of the command each: a command line in
which one of them is changed has a command that is changed at that place and to that word. -/
theorem commandLine_traced {words others : List Bytes} {line other : CommandLine}
    (accepted : CommandLine.parse words = .ok line)
    (accepted' : CommandLine.parse others = .ok other) :
    CommandLine.Traced words others line other where
  placeholder := fun agree => by
    have same : other.invocation.argv = line.invocation.argv :=
      (Invocation.argv_eq_iff _ _).mpr (CommandLine.eq_of_agree accepted accepted' agree)
    refine ⟨same, Invocation.command_eq_of_argv same, ?_, fun values setting host sink =>
      Program.run_sameBesidePlaceholder accepted accepted' same.symm values setting host sink⟩
    rw [Invocation.display, Invocation.display, same]
  compiler := fun _ changed => CommandLine.argv_changedAt rfl accepted accepted' changed
  target := fun _ changed => CommandLine.argv_changedAt rfl accepted accepted' changed
  library := fun library _ changed => by
    rw [Nat.add_comm] at changed
    exact CommandLine.argv_changedAt rfl accepted accepted' changed

/-- Two libraries are merged.  Another placeholder is named in the log and seen nowhere else, and
another second library becomes the last word of the command. -/
theorem commandLine_traced_placeholder :
    let words := ["ast-merge", "cc", "merged.ast", "a.c", "x.ast", "y.ast"].map Text.bytes
    let replaced := words.set 3 (Text.bytes "b.c")
    let extended := words.set 5 (Text.bytes "-o")
    let line : CommandLine := ⟨⟨Text.bytes "cc"⟩, ⟨Text.bytes "merged.ast"⟩, ⟨Text.bytes "a.c"⟩,
      [⟨Text.bytes "x.ast"⟩, ⟨Text.bytes "y.ast"⟩]⟩
    let other : CommandLine := { line with placeholder := ⟨Text.bytes "b.c"⟩ }
    let third : CommandLine :=
      { line with libraries := [⟨Text.bytes "x.ast"⟩, ⟨Text.bytes "-o"⟩] }
    let setting := some (Text.bytes "ast_merge=debug")
    let host : Host := { start := fun _ => .ok (Child.ofWrites 1 [(.stdout, [0x61])] (.exited 0)) }
    CommandLine.parse words = .ok line ∧ CommandLine.parse replaced = .ok other ∧
      CommandLine.parse extended = .ok third ∧
      other.invocation.argv = line.invocation.argv ∧ Program.Announced .words setting line ∧
      Program.SameBesidePlaceholder .words setting line other
        (Program.run words setting host {} .words) (Program.run replaced setting host {} .words) ∧
      ChangedAt 8 (Text.bytes "-o") line.invocation.argv third.invocation.argv := by
  intro words replaced extended line other third setting host
  have accepted : CommandLine.parse words = .ok line := rfl
  have accepted' : CommandLine.parse replaced = .ok other := rfl
  have accepted'' : CommandLine.parse extended = .ok third := rfl
  have traced := commandLine_traced accepted accepted'
  have traced' := commandLine_traced accepted accepted''
  have unseen := traced.placeholder (fun place differs => List.getElem?_set_ne (Ne.symm differs))
  refine ⟨accepted, accepted', accepted'', unseen.argv, ⟨_, rfl, rfl⟩,
    unseen.runs .words setting host {}, traced'.library 1 _ ?_⟩
  exact (changedAt_iff_set _ _ _ _).mpr ⟨Text.bytes "y.ast", rfl, by decide, rfl⟩

end AstLink
