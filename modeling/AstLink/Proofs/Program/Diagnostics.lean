import AstLink.Proofs.Log.Precedence
import AstLink.Proofs.Log.Reading
import AstLink.Proofs.Program.ExitCode
import AstLink.Proofs.Run.Conduct
import AstLink.Program

namespace AstLink

/-!
What a run leaves on the standard error.

A run goes one of five ways, and logs an event for each stage that it reaches.  Nothing else about
it is ever told: neither the filter nor the child adds a message, and only a run that failed ends
with one more.  How a run goes (`Course`) holds no byte of what the child wrote, so nothing that
the child says, to whichever output, is told either.

A filter may tell the events of a run apart, because a directive may ask for those that carry a
field.  If no directive does that, it shows all of them or none.  The main statements are
`messages_exact` and `setting_decides`.
-/

/-- How a run goes, as far as its messages can tell. -/
inductive Course where
  /-- There is no pipe for the compiler's output. -/
  | unconnected (fault : Fault)
  /-- The compiler is not started. -/
  | unlaunched (fault : Fault)
  /-- It is started as a process that cannot be waited for. -/
  | unawaited (process : Nat) (fault : Fault)
  /-- It is started, and its output does not get through. -/
  | unrelayed (process : Nat) (fault : Fault)
  /-- It is started, and so many lines of its output are forwarded. -/
  | relayed (process lines : Nat) (status : WaitStatus)

namespace Course

/-- The events of a run that goes this way, the first of which is its announcement. -/
def events (announcement : Log.Event) : Course -> List Log.Event
  | .unconnected _ | .unlaunched _ => [announcement]
  | .unawaited process _ | .unrelayed process _ => [announcement, .started process]
  | .relayed process lines status => [announcement, .started process, .exited lines status]

/-- What it comes to. -/
def outcome (compiler : String) : Course -> Except MergeError WaitStatus
  | .unconnected fault => .error (.pipe fault)
  | .unlaunched fault => .error (.launch compiler fault)
  | .unawaited _ fault => .error (.wait fault)
  | .unrelayed _ fault => .error (.relay fault)
  | .relayed _ _ status => .ok status

/-- The way of a run that has started a child, by the end of its relay. -/
def ofChild (child : Child) (relayed : Except Fault Nat) : Course :=
  match child.ending, relayed with
  | .error fault, _ => .unawaited child.process fault
  | .ok _, .error fault => .unrelayed child.process fault
  | .ok status, .ok lines => .relayed child.process lines status

end Course

namespace Run

/-- The event that an action logs, if it logs one. -/
def Action.logged? : Action -> Option Log.Event
  | .log event => some event
  | _ => none

theorem Report.log_eq (report : Report) :
    report.log = report.actions.filterMap Action.logged? := rfl

/-- Calls of streams log nothing. -/
theorem filterMap_logged_streams (events : List Stream.Event) :
    (events.map Action.stream).filterMap Action.logged? = [] := by
  rw [List.filterMap_map, List.filterMap_eq_nil_iff]
  exact fun _ _ => rfl

end Run

namespace Invocation

/-- The way that a run goes. -/
def course (host : Host) (sink : Stream.Sink) (invocation : Invocation) : Course :=
  match host.connect, invocation.command.start host with
  | .error fault, _ => .unconnected fault
  | .ok _, .error fault => .unlaunched fault
  | .ok _, .ok child => .ofChild child (relay child.reader sink).outcome

/-- A run logs the events of its course and nothing more, and comes to the same. -/
theorem run_course (invocation : Invocation) (host : Host) (sink : Stream.Sink) :
    (invocation.run host sink).log =
        (invocation.course host sink).events invocation.announcement ∧
      (invocation.run host sink).outcome =
        (invocation.course host sink).outcome (Text.shown invocation.compiler.bytes) := by
  unfold course
  cases connected : host.connect with
  | error fault =>
      rw [run_of_unlaunched sink (launch_of_unconnected connected)]
      exact ⟨rfl, rfl⟩
  | ok _ =>
      cases started : invocation.command.start host with
      | error fault =>
          rw [run_of_unlaunched sink (launch_of_refused connected started)]
          exact ⟨rfl, rfl⟩
      | ok child =>
          have launched := launch_eq_ok_iff.mpr ⟨connected, started⟩
          rw [Run.Report.log_eq]
          unfold run Course.ofChild
          simp only [launched, List.filterMap_append, Run.filterMap_logged_streams]
          cases ending : child.ending with
          | error fault => exact ⟨rfl, by simp only [conclude, ending]; rfl⟩
          | ok status =>
              cases (relay child.reader sink).outcome with
              | error fault => exact ⟨rfl, by simp only [conclude, ending]; rfl⟩
              | ok lines => exact ⟨rfl, by simp only [conclude, ending]; rfl⟩

end Invocation

namespace Program

/-- What is said of a failure; of success nothing is said. -/
def closing : Except MergeError WaitStatus -> List Message
  | .ok _ => []
  | .error error => [.text (failureText error)]

theorem conclude_messages (filter : Log.Filter) (run : Run.Report) :
    (conclude filter run).messages =
      (run.log.filter filter.shows).map Message.log ++ closing run.outcome := by
  rw [conclude]
  cases run.outcome with
  | ok status => rfl
  | error error => rfl

/-- A filter that tells no event from another shows all of them or none. -/
theorem conclude_messages_of_byTarget {filter : Log.Filter} (byTarget : filter.ByTarget)
    (run : Run.Report) :
    (conclude filter run).messages =
      (if filter.enables then run.log.map Message.log else []) ++ closing run.outcome := by
  have same : filter.shows = fun _ => filter.enables :=
    funext (Log.Filter.shows_of_byTarget byTarget)
  rw [conclude_messages, same]
  cases filter.enables with
  | true => simp
  | false => simp

/-- What an accepted command line leaves on the standard error. -/
structure Diagnosed (values : Log.Values) (words : List Bytes) (line : CommandLine) (host : Host)
    (sink : Stream.Sink) : Prop where
  log : (line.invocation.run host sink).log =
    (line.invocation.course host sink).events line.invocation.announcement
  outcome : (line.invocation.run host sink).outcome =
    (line.invocation.course host sink).outcome (Text.shown line.invocation.compiler.bytes)
  /-- The events that the filter shows, and then what is said of a failure. -/
  inForce : ∀ setting filter, Log.Filter.ofSetting? setting values = some filter ->
    (run words setting host sink values).messages =
      ((line.invocation.run host sink).log.filter filter.shows).map Message.log ++
        closing (line.invocation.run host sink).outcome
  byTarget : ∀ setting filter, Log.Filter.ofSetting? setting values = some filter ->
    filter.ByTarget ->
    (run words setting host sink values).messages =
      (if filter.enables then (line.invocation.run host sink).log.map Message.log else []) ++
        closing (line.invocation.run host sink).outcome
  unusable : ∀ setting, Log.Filter.Unusable values setting ->
    ¬ Log.Filter.BreaksDown values setting ->
    (run words setting host sink values).messages =
      closing (line.invocation.run host sink).outcome
  /-- Whatever the children write. -/
  sameCourse : ∀ elsewhere sink',
    line.invocation.course elsewhere sink' = line.invocation.course host sink ->
    ∀ setting, (run words setting elsewhere sink' values).messages =
      (run words setting host sink values).messages

/-- What an accepted command line leaves on the standard error.

A run logs one event for each stage that it reaches, in a fixed order.  Where a filter is in force,
the standard error holds those of these events that the filter shows, and then what is said of the
run's failure if it failed.  A filter that does not look at fields shows all of the events if it
lets their level through under their target, and none otherwise.  Where the standard filter stands
in for a setting that cannot be used, a run that did not fail leaves nothing, however its compiler
ended.

The messages are the same for any two runs that go the same way, whatever their children write. -/
theorem messages_exact (values : Log.Values) (words : List Bytes) {line : CommandLine}
    (parsed : CommandLine.parse words = .ok line) (host : Host) (sink : Stream.Sink) :
    Diagnosed values words line host sink := by
  have went := line.invocation.run_course host sink
  refine ⟨went.1, went.2, fun setting filter read => ?_, fun setting filter read byTarget => ?_,
    fun setting unusable reads => ?_, fun elsewhere sink' same setting => ?_⟩
  · rw [run_of_filter host sink parsed read]
    exact conclude_messages filter _
  · rw [run_of_filter host sink parsed read]
    exact conclude_messages_of_byTarget byTarget _
  · have read := Log.Filter.ofSetting?_of_unusable unusable reads
    rw [run_of_filter host sink parsed read, conclude_messages, List.filter_eq_nil_iff.mpr]
    · rfl
    · intro event _
      rw [Log.Filter.shows_standard]
      exact Bool.false_ne_true
  · have there := line.invocation.run_course elsewhere sink'
    cases read : Log.Filter.ofSetting? setting values with
    | none => simp only [run, parsed, read]
    | some filter =>
        rw [run_of_filter host sink parsed read, run_of_filter elsewhere sink' parsed read,
          conclude_messages, conclude_messages, there.1, there.2, went.1, went.2, same]

/-- A compiler that writes a line to its standard error and exits with three.  Of that line nothing
is seen but that it was one, and where no filter is set, nothing at all. -/
theorem messages_exact_failing :
    let words := ["ast-merge", "cc", "merged.ast", "empty.c"].map Text.bytes
    let line : CommandLine :=
      ⟨⟨Text.bytes "cc"⟩, ⟨Text.bytes "merged.ast"⟩, ⟨Text.bytes "empty.c"⟩, []⟩
    let setting := some (Text.bytes "ast_merge::runner=debug")
    let child := Child.ofWrites 7 [(.stderr, [0x61, 0x0a])] (.exited 3)
    let host : Host := { start := fun _ => .ok child }
    CommandLine.parse words = .ok line ∧
      (run words setting host {} .words).messages =
        [.log line.invocation.announcement, .log (.started 7), .log (.exited 1 (.exited 3))] ∧
      (run words none host {} .words).messages = [] := by
  intro words line setting child host
  have parsed : CommandLine.parse words = .ok line := rfl
  have exact := messages_exact .words words parsed host {}
  have read : Log.Filter.ofSetting? setting .words =
      some (Log.Filter.ofDirectives .words [⟨some "ast_merge::runner", none, none, .debug⟩]) := rfl
  have byTarget : (Log.Filter.ofDirectives .words
      [⟨some "ast_merge::runner", none, none, .debug⟩]).ByTarget :=
    fun rule member => List.mem_singleton.mp member ▸ rfl
  have relayed : (relay child.reader {}).outcome = .ok 1 := by
    decide +kernel
  have course : line.invocation.course host {} = .relayed 7 1 (.exited 3) :=
    congrArg (Course.ofChild child) relayed
  have log := exact.log
  have outcome := exact.outcome
  rw [course] at log outcome
  refine ⟨parsed, ?_, ?_⟩
  · have shown := exact.byTarget setting _ read byTarget
    rw [log, outcome] at shown
    exact shown
  · have hidden := exact.unusable none .unset (by simp [Log.Filter.BreaksDown])
    rw [outcome] at hidden
    exact hidden

/-- A filter that asks for the events with a certain field shows one of three, although the run did
not fail: neither all of its events nor nothing. -/
theorem not_all_or_none_of_field :
    let words := ["ast-merge", "cc", "merged.ast", "empty.c"].map Text.bytes
    let line : CommandLine :=
      ⟨⟨Text.bytes "cc"⟩, ⟨Text.bytes "merged.ast"⟩, ⟨Text.bytes "empty.c"⟩, []⟩
    let setting := some (Text.bytes "[\x7bpid\x7d]=debug")
    let child := Child.ofWrites 7 [(.stdout, [0x61, 0x0a])] (.exited 3)
    let host : Host := { start := fun _ => .ok child }
    let messages := (run words setting host {} .words).messages
    CommandLine.parse words = .ok line ∧
      (line.invocation.run host {}).outcome.toOption = some (.exited 3) ∧
      messages = [.log (.started 7)] ∧
      ¬ (messages = (line.invocation.run host {}).log.map Message.log ∨ messages = []) := by
  intro words line setting child host messages
  have parsed : CommandLine.parse words = .ok line := rfl
  have shown : messages = [.log (.started 7)] := by decide +kernel
  have logged : (line.invocation.run host {}).log.length = 3 := by decide +kernel
  refine ⟨parsed, by decide +kernel, shown, ?_⟩
  rw [shown]
  rintro (all | none)
  · have counted := congrArg List.length all
    rw [List.length_map, logged] at counted
    cases counted
  · cases none

/-! ## Which settings show the events -/

/-- The event that a message shows, if it is a log line. -/
def Message.event? : Message -> Option Log.Event
  | .log event => some event
  | .text _ => none

/-- The events shown on the standard error. -/
def Report.logged (report : Report) : List Log.Event := report.messages.filterMap Message.event?

theorem conclude_logged (filter : Log.Filter) (run : Run.Report) :
    (conclude filter run).logged = run.log.filter filter.shows := by
  have lines (events : List Log.Event) :
      (events.map Message.log).filterMap Message.event? = events := by
    rw [List.filterMap_map]
    exact List.filterMap_some
  rw [Report.logged, conclude_messages, List.filterMap_append, lines]
  cases run.outcome with
  | ok status => exact List.append_nil _
  | error error => exact List.append_nil _

/-- What becomes of a setting that cannot be used. -/
structure StandsIn (values : Log.Values) (setting : Option Bytes) (logged : List Log.Event) :
    Prop where
  standard : Log.Filter.ofSetting? setting values = some Log.Filter.standard ↔
    ¬ Log.Filter.BreaksDown values setting
  none : Log.Filter.ofSetting? setting values = none ↔ Log.Filter.BreaksDown values setting
  hidden : logged = []

/-- What plain directives come to, in the order in which they are written. -/
structure Ruled (values : Log.Values) (phrases : List Log.Directive.Phrase)
    (events logged : List Log.Event) : Prop where
  inForce : Log.Filter.ofSetting? (some (Log.Filter.setting phrases)) values =
    some (Log.Filter.ofDirectives values
      ((phrases.map Log.Directive.Phrase.rule).map Log.Rule.directive))
  shown : (∃ rule : Log.Rule, rule.Decides (phrases.map Log.Directive.Phrase.rule) ∧
    (rule.level = .debug ∨ rule.level = .trace)) -> logged = events
  hidden : (¬ ∃ rule : Log.Rule, rule.Decides (phrases.map Log.Directive.Phrase.rule) ∧
    (rule.level = .debug ∨ rule.level = .trace)) -> logged = []
  reordered : ((phrases.map Log.Directive.Phrase.rule).map Log.Rule.target).Nodup ->
    ∀ others, phrases.Perm others ->
      Log.Filter.ofSetting? (some (Log.Filter.setting others)) values =
        Log.Filter.ofSetting? (some (Log.Filter.setting phrases)) values

/-- What a command line shows of its run, by what the log filter is set to. -/
structure SettingDecides (values : Log.Values) (words : List Bytes) (line : CommandLine)
    (host : Host) (sink : Stream.Sink) : Prop where
  unusable : ∀ setting, Log.Filter.Unusable values setting ->
    StandsIn values setting (run words setting host sink values).logged
  plain : ∀ phrases : List Log.Directive.Phrase, phrases ≠ [] ->
    Ruled values phrases (line.invocation.run host sink).log
      (run words (some (Log.Filter.setting phrases)) host sink values).logged
  /-- Which texts of the two forms are plain directives. -/
  readable : ∀ text, Log.Directive.Form text ->
    ((∃ phrase : Log.Directive.Phrase, phrase.text = text) ↔
      ∃ directive, Log.Directive.ofBytes values (Text.Utf8.encode text) = .ok directive)

/-- What an accepted command line shows of its run, by what the log filter is set to.

If the setting cannot be used, because there is none, or it is no text, or one of its directives is
malformed, whichever one it is, then nothing is shown.  The filter in force is the standard one,
unless reading the setting breaks down before it gets to the malformed directive; then there is no
filter at all.

If the setting is a list of plain directives, the filter in force is made of all of them.  All
events are shown if the directive that decides, which is the last of those with the longest target
among the ones that concern the events, asks for `debug` or `trace`, and none is shown otherwise.
If the targets differ, the order of the directives does not matter for the filter.  A text of either
form, a level or a target and a level, is a plain directive just if it can be read. -/
theorem setting_decides (values : Log.Values) (words : List Bytes) {line : CommandLine}
    (parsed : CommandLine.parse words = .ok line) (host : Host) (sink : Stream.Sink) :
    SettingDecides values words line host sink := by
  have inForce {setting : Option Bytes} {filter : Log.Filter}
      (read : Log.Filter.ofSetting? setting values = some filter) :
      (run words setting host sink values).logged =
        (line.invocation.run host sink).log.filter filter.shows := by
    rw [run_of_filter host sink parsed read]
    exact conclude_logged filter _
  have hidden {setting : Option Bytes} {filter : Log.Filter}
      (read : Log.Filter.ofSetting? setting values = some filter)
      (silent : ∀ event, filter.shows event ≠ true) :
      (run words setting host sink values).logged = [] := by
    rw [inForce read]
    exact List.filter_eq_nil_iff.mpr fun event _ => silent event
  refine ⟨?_, ?_, fun text form => Log.Directive.exists_phrase_iff form⟩
  · intro setting unusable
    have broken := Log.Filter.ofSetting?_eq_none_iff values setting
    by_cases breaks : Log.Filter.BreaksDown values setting
    · have none := broken.mpr breaks
      refine ⟨iff_of_false (fun read => ?_) (not_not_intro breaks), broken, ?_⟩
      · rw [none] at read
        cases read
      · rw [run_of_breaksDown host sink parsed breaks]
        rfl
    · have read := Log.Filter.ofSetting?_of_unusable unusable breaks
      refine ⟨iff_of_true read breaks, broken, hidden read fun event => ?_⟩
      rw [Log.Filter.shows_standard]
      exact Bool.false_ne_true
  · intro phrases nonempty
    have plain : ∀ rule ∈ phrases.map Log.Directive.Phrase.rule, rule.Plain := by
      intro rule member
      rcases List.mem_map.mp member with ⟨phrase, _, rfl⟩
      exact phrase.plain
    have read := Log.Filter.ofSetting?_setting values nonempty
    have shows := Log.Filter.shows_ofDirectives_iff values plain
    refine ⟨read, fun decided => ?_, fun undecided => ?_, fun distinct others same => ?_⟩
    · rw [inForce read]
      exact List.filter_eq_self.mpr fun event _ => (shows event).mpr decided
    · exact hidden read fun event loud => undecided ((shows event).mp loud)
    · have nonempty' : others ≠ [] := fun empty => nonempty (List.perm_nil.mp (empty ▸ same))
      rw [read, Log.Filter.ofSetting?_setting values nonempty',
        Log.Filter.ofDirectives_perm values (same.map _) plain distinct]

/-- A target that is named twice: the later level decides, although a level for everything stands in
between.  A malformed directive hides what the others ask for; one that asks for a value that is
none is malformed, too. -/
theorem setting_decides_repeated :
    let words := ["ast-merge", "cc", "merged.ast", "empty.c"].map Text.bytes
    let line : CommandLine :=
      ⟨⟨Text.bytes "cc"⟩, ⟨Text.bytes "merged.ast"⟩, ⟨Text.bytes "empty.c"⟩, []⟩
    let host : Host := { start := fun _ => .ok (Child.ofWrites 7 [] (.exited 0)) }
    let logged (setting : String) :=
      (run words (some (Text.bytes setting)) host {} .words).logged
    CommandLine.parse words = .ok line ∧
      logged "ast_merge=warn,info,ast_merge=DEBUG" = (line.invocation.run host {}).log ∧
      logged "debug,=debug" = [] ∧ logged "[\x7bpid=*\x7d]=info,debug" = [] := by
  intro words line host logged
  have parsed : CommandLine.parse words = .ok line := rfl
  have decides := setting_decides .words words parsed host {}
  let target (word : String) (level : Log.Level)
      (named : Log.Level.ofText? word.toList = some level) : Log.Directive.Phrase :=
    .targeted 'a' "st_merge".toList word.toList level (by decide +kernel) (by simp) named
  let phrases := [target "warn" .warn rfl,
    .level 'i' "nfo".toList .info (by decide +kernel) rfl, target "DEBUG" .debug rfl]
  have written : Log.Filter.setting phrases =
      Text.bytes "ast_merge=warn,info,ast_merge=DEBUG" := by
    decide +kernel
  have malformed (part : String) (said : Log.Directive.ofBytes .words (Text.bytes part) =
        .error .malformed) {setting : String}
      (member : Text.bytes part ∈ Log.Filter.parts (Text.bytes setting)) : logged setting = [] :=
    (decides.unusable _ (.malformed member said)).hidden
  refine ⟨parsed, ?_, malformed "=debug" (by decide +kernel) (by decide +kernel),
    malformed "[\x7bpid=*\x7d]=info" (by decide +kernel) (by decide +kernel)⟩
  have ruled := decides.plain phrases (List.cons_ne_nil _ _)
  rw [written] at ruled
  refine ruled.shown ⟨(target "DEBUG" .debug rfl).rule, ⟨[(target "warn" .warn rfl).rule,
    ⟨none, none, .info⟩], [], rfl, ?_, ?_, List.forall_mem_nil _⟩, Or.inl rfl⟩
  · decide +kernel
  · decide +kernel

/-- The second directive is malformed, and the standard filter should stand in; but the first one is
cut inside its letter, and there is no filter. -/
theorem not_standard_behind_shifted_target :
    let setting := some (Text.bytes " é=debug,=debug")
    Log.Filter.Unusable .words setting ∧
      Log.Filter.ofSetting? setting .words ≠ some Log.Filter.standard := by
  intro setting
  have malformed : Log.Directive.ofBytes .words (Text.bytes "=debug") = .error .malformed := by
    decide +kernel
  have member : Text.bytes "=debug" ∈ Log.Filter.parts (Text.bytes " é=debug,=debug") := by
    decide +kernel
  have none : Log.Filter.ofSetting? setting .words = none := rfl
  refine ⟨.malformed member malformed, fun standard => ?_⟩
  rw [none] at standard
  cases standard

end Program

end AstLink
