import AstLink.Proofs.Relay.Accounting

namespace AstLink
namespace Relay

/-!
What an interruption costs.

A reading of a line may be broken off after it has added bytes to the line buffer.  A reader that
reads on by itself keeps them (`relay_lossless`).  A reader that reports the interruption leaves
it to the relay to read again, and the relay starts the reading afresh: its line buffer is emptied,
so the bytes of the reading that was broken off are never forwarded.  A relay of such a reader
forwards the lines of the readings that came to their end, and that is all that was appended
exactly if no reading was broken off after it had appended something (`relay_interrupted`).
-/

open AstLink.Stream

/-- A reading as it is given: the bytes that it appends to the line buffer, and its fault. -/
abbrev Reading := Bytes × Option Fault

/-- All bytes that readings append, up to one that comes to the end of the stream while nothing is
held.  `held` is what readings that were broken off have appended since the last line. -/
def appendedFrom (held : Bytes) : List Reading -> Bytes
  | [] => []
  | (added, some _) :: reads => added ++ appendedFrom (held ++ added) reads
  | (added, none) :: reads =>
      if held ++ added = [] then [] else added ++ appendedFrom [] reads

/-- The relay of some readings succeeds and forwards whatever they append. -/
def KeepsAppended (reads : List Reading) (sink : Sink) : Prop :=
  let report := relay (.scripted reads) sink
  (∃ count, report.outcome = .ok count) ∧ Event.output report.events = appendedFrom [] reads

/-- The readings before the first that comes to the end of the stream. -/
def made (reads : List Reading) : List Reading := reads.takeWhile (fun read => read != ([], none))

/-- What the readings that come to their end append, one portion each. -/
def ended (reads : List Reading) : List Bytes :=
  (reads.filter (fun read => read.2.isNone)).map Prod.fst

/-- What the readings append that are broken off. -/
def brokenOff (reads : List Reading) : List Bytes :=
  (reads.filter (fun read => read.2.isSome)).map Prod.fst

/-! ## Reading by reading -/

section Step

variable {added : Bytes} (reads : List Reading)

theorem made_cons_fault (fault : Fault) :
    made ((added, some fault) :: reads) = (added, some fault) :: made reads :=
  List.takeWhile_cons_of_pos (by simp)

theorem made_cons_end : made (([], none) :: reads) = [] := List.takeWhile_cons_of_neg (by simp)

theorem made_cons_line (nonempty : added ≠ []) :
    made ((added, none) :: reads) = (added, none) :: made reads :=
  List.takeWhile_cons_of_pos (by simp [nonempty])

theorem appendedFrom_line (held : Bytes) (nonempty : added ≠ []) :
    appendedFrom held ((added, none) :: reads) = added ++ appendedFrom [] reads := by
  rw [appendedFrom, if_neg]
  exact fun empty => nonempty (List.append_eq_nil_iff.mp empty).2

end Step

/-- The relay takes the readings that come to their end for its lines. -/
theorem lines_scripted (reads : List Reading)
    (passing : ∀ added fault, (added, some fault) ∈ reads -> fault.isInterrupted = true) :
    LineRead.lines (Reader.scripted reads).lineReads = ended (made reads) ∧
      LineRead.breaking? (Reader.scripted reads).lineReads = none := by
  induction reads with
  | nil =>
      have nothing : (Reader.scripted []).lineReads = [Feed.scriptedRead [] none] :=
        Feed.readings_of_last rfl
      rw [nothing]
      exact ⟨rfl, rfl⟩
  | cons read reads ih =>
      have others := ih
        (fun added fault member => passing added fault (List.mem_cons_of_mem _ member))
      rcases read with ⟨added, fault?⟩
      cases fault? with
      | some fault =>
          have interrupted := passing added fault List.mem_cons_self
          have split : (Reader.scripted ((added, some fault) :: reads)).lineReads =
              Feed.scriptedRead added (some fault) :: (Reader.scripted reads).lineReads :=
            Feed.readings_of_goesOn interrupted
          have broken : (Feed.scriptedRead added (some fault)).fault = some fault := rfl
          have same := LineRead.lines_cons_of_interrupted (Reader.scripted reads).lineReads broken
            interrupted
          rw [split, same.1, same.2, made_cons_fault]
          exact others
      | none =>
          have whole : (Feed.scriptedRead added none).fault = none := rfl
          by_cases empty : added = []
          · subst empty
            have last : (Reader.scripted (([], none) :: reads)).lineReads =
                [Feed.scriptedRead [] none] := Feed.readings_of_last rfl
            rw [last, made_cons_end]
            exact LineRead.lines_cons_of_end [] whole rfl
          · have goesOn : (Feed.scriptedRead added none).goesOn = true := by
              simpa [LineRead.goesOn, Feed.scriptedRead] using empty
            have split : (Reader.scripted ((added, none) :: reads)).lineReads =
                Feed.scriptedRead added none :: (Reader.scripted reads).lineReads :=
              Feed.readings_of_goesOn goesOn
            have same := LineRead.lines_cons_of_line (Reader.scripted reads).lineReads whole empty
            rw [split, same.1, same.2, made_cons_line reads empty]
            exact ⟨congrArg (List.cons added) others.1, others.2⟩

/-- What the readings append is what the relay forwards, what was broken off, and perhaps more. -/
theorem length_made_le (held : Bytes) (reads : List Reading) :
    (ended (made reads)).flatten.length + (brokenOff (made reads)).flatten.length ≤
      (appendedFrom held reads).length := by
  induction reads generalizing held with
  | nil => exact Nat.le_refl 0
  | cons read reads ih =>
      rcases read with ⟨added, fault?⟩
      cases fault? with
      | some fault =>
          have later := ih (held ++ added)
          have lost : brokenOff ((added, some fault) :: made reads) =
              added :: brokenOff (made reads) := rfl
          have kept : ended ((added, some fault) :: made reads) = ended (made reads) := rfl
          rw [made_cons_fault, appendedFrom, lost, kept, List.flatten_cons, List.length_append,
            List.length_append]
          omega
      | none =>
          by_cases empty : added = []
          · subst empty
            rw [made_cons_end]
            exact Nat.zero_le _
          · have later := ih []
            have lost : brokenOff ((added, none) :: made reads) = brokenOff (made reads) := rfl
            have kept : ended ((added, none) :: made reads) = added :: ended (made reads) := rfl
            rw [made_cons_line reads empty, appendedFrom_line reads held empty, lost, kept,
              List.flatten_cons, List.length_append, List.length_append]
            omega

/-- Where nothing was broken off after it had appended something, there is no more. -/
theorem appendedFrom_nil_eq (reads : List Reading)
    (clean : ∀ read ∈ made reads, read.2 ≠ none -> read.1 = []) :
    appendedFrom [] reads = (ended (made reads)).flatten := by
  induction reads with
  | nil => rfl
  | cons read reads ih =>
      rcases read with ⟨added, fault?⟩
      cases fault? with
      | some fault =>
          rw [made_cons_fault] at clean ⊢
          have nothing : added = [] :=
            clean (added, some fault) List.mem_cons_self (Option.some_ne_none fault)
          have later := ih (fun read member => clean read (List.mem_cons_of_mem _ member))
          rw [appendedFrom, nothing]
          exact later
      | none =>
          by_cases empty : added = []
          · subst empty
            rw [made_cons_end]
            rfl
          · rw [made_cons_line reads empty] at clean ⊢
            have later := ih (fun read member => clean read (List.mem_cons_of_mem _ member))
            rw [appendedFrom_line reads [] empty, later]
            rfl

/-- Nothing was broken off just if every reading that was broken off had appended nothing. -/
theorem brokenOff_flatten_eq_nil_iff (reads : List Reading) :
    (brokenOff reads).flatten = [] ↔ ∀ read ∈ reads, read.2 ≠ none -> read.1 = [] := by
  rw [List.flatten_eq_nil_iff, brokenOff]
  constructor
  · intro none read member broken
    apply none
    have kept : read ∈ reads.filter (fun read => read.2.isSome) :=
      List.mem_filter.mpr ⟨member, Option.isSome_iff_ne_none.mpr broken⟩
    exact List.mem_map.mpr ⟨read, kept, rfl⟩
  · intro clean added member
    rcases List.mem_map.mp member with ⟨read, kept, equal⟩
    have parts := List.mem_filter.mp kept
    exact equal ▸ clean read parts.1 (Option.isSome_iff_ne_none.mp parts.2)

end Relay

open AstLink.Stream

/-- A relay of readings that only interruptions break off succeeds, and forwards as its lines what
the readings append that come to their end before the end of the stream.

That is all that the readings append if and only if none of those before the end of the stream was
broken off after it had appended something. -/
theorem relay_interrupted (reads : List Relay.Reading)
    (passing : ∀ added fault, (added, some fault) ∈ reads -> fault.isInterrupted = true)
    (sink : Sink) (neverFails : sink.NeverFails) :
    let report := relay (.scripted reads) sink
    let lines := Relay.ended (Relay.made reads)
    report.outcome = .ok lines.length ∧ Event.shown report.events = ⟨lines, []⟩ ∧
      Event.output report.events = lines.flatten ∧
      (Relay.KeepsAppended reads sink ↔
        ∀ read ∈ Relay.made reads, read.2 ≠ none -> read.1 = []) := by
  intro report lines
  have read := Relay.lines_scripted reads passing
  have complete := Relay.relay_complete (.scripted reads) read.2 sink neverFails
  rw [read.1] at complete
  have output : Event.output report.events = lines.flatten := by
    rw [Event.output_eq_shown, complete.2]
    exact List.append_nil _
  refine ⟨complete.1, complete.2, output, ?_⟩
  constructor
  · rintro ⟨_, kept⟩
    have length := Relay.length_made_le [] reads
    rw [← kept, output] at length
    have lost : (Relay.brokenOff (Relay.made reads)).flatten.length = 0 :=
      Nat.eq_zero_of_le_zero (Nat.le_of_add_le_add_left length)
    exact (Relay.brokenOff_flatten_eq_nil_iff _).mp (List.length_eq_zero_iff.mp lost)
  · intro clean
    exact ⟨⟨_, complete.1⟩, output.trans (Relay.appendedFrom_nil_eq reads clean).symm⟩

/-- A line whose first reading is broken off after two bytes: the relay succeeds with what the
second reading appends. -/
theorem relay_interrupted_midline :
    let reads : List Relay.Reading :=
      [([0x61, 0x62], some (Fault.ofKind .interrupted)), ([0x63, 0x0a], none)]
    let report := relay (.scripted reads) {}
    report.outcome = .ok 1 ∧ Event.output report.events = [0x63, 0x0a] := by
  intro reads report
  have passing : ∀ added fault, (added, some fault) ∈ reads -> fault.isInterrupted = true := by
    simp [reads, Fault.ofKind, Fault.isInterrupted]
  have told := relay_interrupted reads passing {} (by decide)
  exact ⟨told.1, told.2.2.1⟩

/-- So a reader can append a line that is not forwarded as it was appended. -/
theorem not_keepsAppended_midline :
    ¬ Relay.KeepsAppended
      [([0x61, 0x62], some (Fault.ofKind .interrupted)), ([0x63, 0x0a], none)] {} := by
  rintro ⟨_, kept⟩
  exact absurd kept (by decide +kernel)

end AstLink
