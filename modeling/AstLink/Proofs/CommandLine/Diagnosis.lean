import AstLink.Proofs.CommandLine.Leading

namespace AstLink
namespace CommandLine

/-!
What is said of a command line that is refused.

`Refused` lists the reasons in terms of the first option and of the values before it, and an option
is told by its spelling.  A line is refused for the reason that the list has for its leading words
(`parse_eq_error_iff`).  So of two faults the one that is named depends on their order: an empty
value is overtaken by a later value but not by an option that is not known, and a request for a text
is answered only if no value before it is empty.
-/

/-- Why leading words do not lead to a merge. -/
inductive Refused (leading : List Bytes) : Refusal -> Prop
  /-- An empty value was overtaken by another value. -/
  | overtaken (place : Nat) (first : overtaken? (leadingValues leading) = some place) :
      Refused leading (.emptyValue (.ofIndex place))
  /-- The first option is not known. -/
  | unknown (option : Bytes) (text : String) (similar : Option Flag)
      (intact : overtaken? (leadingValues leading) = none)
      (first : leadingOption? leading = some option)
      (unasked : ∀ flag : Flag, ¬ flag.IsAsked option)
      (unvalued : ∀ (flag : Flag) (value : Bytes), ¬ flag.HasValue value option)
      (shown : Word.ofBytes option = .unknown text similar) :
      Refused leading (.unknownOption text similar)
  /-- The first option was given a value. -/
  | valued (option : Bytes) (flag : Flag) (value : Bytes)
      (intact : overtaken? (leadingValues leading) = none)
      (first : leadingOption? leading = some option) (hasValue : flag.HasValue value option) :
      Refused leading (.unexpectedValue flag value (isTaken (leadingValues leading)))
  /-- The first option asks for a text, right after an empty value. -/
  | emptyBefore (option : Bytes) (flag : Flag)
      (intact : overtaken? (leadingValues leading) = none)
      (first : leadingOption? leading = some option) (asked : flag.IsAsked option)
      (last : (leadingValues leading).getLast? = some []) :
      Refused leading (.emptyValue (.ofIndex ((leadingValues leading).length - 1)))
  /-- The first option asks for a text. -/
  | asked (option : Bytes) (flag : Flag)
      (intact : overtaken? (leadingValues leading) = none)
      (first : leadingOption? leading = some option) (asked : flag.IsAsked option)
      (last : (leadingValues leading).getLast? ≠ some []) :
      Refused leading flag.refusal
  /-- There is no option, and the last value is empty. -/
  | emptyLast (intact : overtaken? (leadingValues leading) = none)
      (noOption : leadingOption? leading = none)
      (last : (leadingValues leading).getLast? = some []) :
      Refused leading (.emptyValue (.ofIndex ((leadingValues leading).length - 1)))
  /-- There is no option, and the values do not suffice. -/
  | missing (intact : overtaken? (leadingValues leading) = none)
      (noOption : leadingOption? leading = none)
      (last : (leadingValues leading).getLast? ≠ some [])
      (few : (leadingValues leading).length < leadingCount) :
      Refused leading (.missing (Positional.all.drop (leadingValues leading).length))

/-- The first option asks for a text, and no value before it is empty. -/
def IsAnswered (leading : List Bytes) : Prop :=
  ∃ option flag, leadingOption? leading = some option ∧ Flag.IsAsked flag option ∧
    [] ∉ leadingValues leading

/-! ## The reasons -/

/-- What an option is, told by its spelling. -/
theorem spelling_cases {option : Bytes} (notValue : Word.ofBytes option ≠ .value)
    (notEnd : option ≠ endMark) :
    (∃ flag, Word.ofBytes option = .flag flag ∧ flag.IsAsked option) ∨
      (∃ flag value, Word.ofBytes option = .flagValue flag value ∧ flag.HasValue value option) ∨
      ∃ text similar, Word.ofBytes option = .unknown text similar ∧
        (∀ flag : Flag, ¬ flag.IsAsked option) ∧
        ∀ (flag : Flag) (value : Bytes), ¬ flag.HasValue value option := by
  rcases Word.option_cases notValue notEnd with
    ⟨flag, read⟩ | ⟨flag, value, read⟩ | ⟨text, similar, read⟩
  · exact Or.inl ⟨flag, read, (Word.ofBytes_eq_flag_iff option flag).mp read⟩
  · exact Or.inr (Or.inl ⟨flag, value, read,
      (Word.ofBytes_eq_flagValue_iff option flag value).mp read⟩)
  · refine Or.inr (Or.inr ⟨text, similar, read, ?_, ?_⟩)
    · intro flag asked
      rw [(Word.ofBytes_eq_flag_iff option flag).mpr asked] at read
      cases read
    · intro flag value hasValue
      rw [(Word.ofBytes_eq_flagValue_iff option flag value).mpr hasValue] at read
      cases read

/-- The reading of leading words ends with one of the reasons, or all of them are values but the
mark. -/
theorem values_outcome (leading : List Bytes) :
    (∃ refusal, values [] false leading = .error refusal ∧ Refused leading refusal) ∨
      (values [] false leading = .ok (leadingValues leading) ∧
        overtaken? (leadingValues leading) = none ∧ leadingOption? leading = none ∧
        (leadingValues leading).getLast? ≠ some []) := by
  cases intact : overtaken? (leadingValues leading) with
  | some place => exact Or.inl ⟨_, values_of_overtaken intact, .overtaken place intact⟩
  | none =>
      cases first : leadingOption? leading with
      | none =>
          have read := values_to_end intact first
          by_cases last : (leadingValues leading).getLast? = some []
          · rw [checkLast_of_empty last] at read
            exact Or.inl ⟨_, read, .emptyLast intact first last⟩
          · rw [checkLast_of_nonempty last] at read
            exact Or.inr ⟨read, rfl, rfl, last⟩
      | some option =>
          left
          rcases split_at_option first with ⟨_, _, notValue, notEnd⟩
          rcases values_to_option intact first with ⟨rest, read⟩
          rcases spelling_cases notValue notEnd with
            ⟨flag, kind, asked⟩ | ⟨flag, value, kind, hasValue⟩ |
              ⟨text, similar, kind, unasked, unvalued⟩
          · by_cases last : (leadingValues leading).getLast? = some []
            · rw [kind, checkLast_of_empty last] at read
              exact ⟨_, read, .emptyBefore option flag intact first asked last⟩
            · rw [kind, checkLast_of_nonempty last] at read
              exact ⟨_, read, .asked option flag intact first asked last⟩
          · rw [kind] at read
            exact ⟨_, read, .valued option flag value intact first hasValue⟩
          · rw [kind] at read
            exact ⟨_, read, .unknown option text similar intact first unasked unvalued kind⟩

/-- Each of the reasons ends the reading, but for the lack of values, which is found after it. -/
theorem Refused.reading {leading : List Bytes} {refusal : Refusal}
    (refused : Refused leading refusal) :
    values [] false leading = .error refusal ∨
      (values [] false leading = .ok (leadingValues leading) ∧
        (leadingValues leading).length < leadingCount ∧
        refusal = .missing (Positional.all.drop (leadingValues leading).length)) := by
  cases refused with
  | overtaken place first => exact Or.inl (values_of_overtaken first)
  | unknown option text similar intact first unasked unvalued shown =>
      rcases values_to_option intact first with ⟨rest, read⟩
      rw [shown] at read
      exact Or.inl read
  | valued option flag value intact first hasValue =>
      rcases values_to_option intact first with ⟨rest, read⟩
      rw [(Word.ofBytes_eq_flagValue_iff option flag value).mpr hasValue] at read
      exact Or.inl read
  | emptyBefore option flag intact first asked last =>
      rcases values_to_option intact first with ⟨rest, read⟩
      rw [(Word.ofBytes_eq_flag_iff option flag).mpr asked, checkLast_of_empty last] at read
      exact Or.inl read
  | asked option flag intact first asked last =>
      rcases values_to_option intact first with ⟨rest, read⟩
      rw [(Word.ofBytes_eq_flag_iff option flag).mpr asked, checkLast_of_nonempty last] at read
      exact Or.inl read
  | emptyLast intact noOption last =>
      rw [values_to_end intact noOption, checkLast_of_empty last]
      exact Or.inl rfl
  | missing intact noOption last few =>
      rw [values_to_end intact noOption, checkLast_of_nonempty last]
      exact Or.inr ⟨rfl, few, rfl⟩

/-! ## Exit codes -/

theorem Refusal.exitCode_eq_zero_iff (refusal : Refusal) :
    refusal.exitCode = 0 ↔ refusal.isAnswer = true := by
  unfold exitCode
  cases refusal.isAnswer with
  | false => decide
  | true => decide

theorem Refusal.exitCode_eq_two_iff (refusal : Refusal) :
    refusal.exitCode = 2 ↔ ¬ refusal.isAnswer = true := by
  unfold exitCode
  cases refusal.isAnswer with
  | false => decide
  | true => decide

theorem Flag.isAnswer_refusal (flag : Flag) : flag.refusal.isAnswer = true := by
  cases flag with
  | help => rfl
  | version => rfl

theorem Refused.isAnswer_iff {leading : List Bytes} {refusal : Refusal}
    (refused : Refused leading refusal) : refusal.isAnswer = true ↔ IsAnswered leading := by
  constructor
  · intro answer
    cases refused with
    | asked option flag intact first asked last =>
        exact ⟨option, flag, first, asked, (nil_notMem_iff _).mpr ⟨intact, last⟩⟩
    | _ => cases answer
  · rintro ⟨option, flag, first, asked, clean⟩
    have checked := (nil_notMem_iff _).mp clean
    rcases values_to_option checked.1 first with ⟨rest, read⟩
    rw [(Word.ofBytes_eq_flag_iff option flag).mpr asked, checkLast_of_nonempty checked.2] at read
    rcases refused.reading with ended | ⟨took, _, _⟩
    · cases read.symm.trans ended
      exact flag.isAnswer_refusal
    · cases read.symm.trans took

/-! ## Whole lines -/

/-- A command line is refused for one of the reasons.  It exits as an answer if the first option
among the leading words asks for a text and no value before it is empty, and as a misuse if not. -/
theorem parse_eq_error_iff (words : List Bytes) (refusal : Refusal) :
    (parse words = .error refusal ↔ Refused ((words.drop 1).take leadingCount) refusal) ∧
      (parse words = .error refusal ->
        (refusal.exitCode = 0 ↔ IsAnswered ((words.drop 1).take leadingCount)) ∧
        (refusal.exitCode = 2 ↔ ¬ IsAnswered ((words.drop 1).take leadingCount))) := by
  have reasons : parse words = .error refusal ↔
      Refused ((words.drop 1).take leadingCount) refusal := by
    rw [parse_eq_error_iff_values]
    constructor
    · intro refused
      rcases values_outcome ((words.drop 1).take leadingCount) with
        ⟨other, read, reason⟩ | ⟨read, intact, noOption, last⟩
      · rcases refused with ended | ⟨given, took, _⟩
        · rw [read] at ended
          exact Except.error.inj ended ▸ reason
        · cases read.symm.trans took
      · rcases refused with ended | ⟨given, took, few, missing⟩
        · cases read.symm.trans ended
        · rw [← Except.ok.inj (read.symm.trans took)] at few missing
          rw [missing]
          exact .missing intact noOption last few
    · intro reason
      rcases reason.reading with ended | ⟨took, few, missing⟩
      · exact Or.inl ended
      · exact Or.inr ⟨_, took, few, missing⟩
  refine ⟨reasons, fun refused => ?_⟩
  have answer := (reasons.mp refused).isAnswer_iff
  rw [Refusal.exitCode_eq_zero_iff, Refusal.exitCode_eq_two_iff, answer]
  exact ⟨Iff.rfl, Iff.rfl⟩

end CommandLine
end AstLink
