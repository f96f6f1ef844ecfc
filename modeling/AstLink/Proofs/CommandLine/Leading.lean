import AstLink.Proofs.CommandLine.Options
import Mathlib.Data.List.Basic

namespace AstLink
namespace CommandLine

/-!
What the reading of the leading words comes to.

They are read from left to right, and an empty value is noticed only when the next value comes, when
an option asks for a text, or at the end.  The closed form of this looks at two things: the first
option, which stands before the mark that ends the options, and the values before it.  Where there
is no option, all words but that mark are values.
-/

/-- A word that is read as an option where options have not been ended. -/
def IsOption (word : Bytes) : Prop := word.head? = some Bytes.dash ∧ word ≠ [Bytes.dash]

instance : DecidablePred IsOption := fun _ => inferInstanceAs (Decidable (_ ∧ _))

/-- The first option among leading words. -/
def leadingOption? (leading : List Bytes) : Option Bytes :=
  (leading.takeWhile (fun word => word != endMark)).find? (fun word => decide (IsOption word))

/-- The values among leading words, up to the first option. -/
def leadingValues (leading : List Bytes) : List Bytes :=
  if leadingOption? leading = none then leading.erase endMark
  else leading.takeWhile (fun word => decide (¬ IsOption word))

/-- The place of the first empty value that another value follows. -/
def overtaken? (given : List Bytes) : Option Nat := given.dropLast.findIdx? List.isEmpty

/-! ## The first option and the values before it -/

theorem ofBytes_eq_value_iff_not_isOption (word : Bytes) :
    Word.ofBytes word = .value ↔ ¬ IsOption word := by
  rw [Word.ofBytes_eq_value_iff, IsOption]
  constructor
  · rintro (alone | other) ⟨dash, notAlone⟩
    · exact notAlone alone
    · exact other dash
  · intro notOption
    by_cases dash : word.head? = some Bytes.dash
    · exact Or.inl (Decidable.not_not.mp (fun notAlone => notOption ⟨dash, notAlone⟩))
    · exact Or.inr dash

theorem isOption_endMark : IsOption endMark := by decide

theorem leadingOption?_endMark (rest : List Bytes) : leadingOption? (endMark :: rest) = none := by
  rw [leadingOption?, List.takeWhile_cons_of_neg (by simp)]
  rfl

theorem leadingOption?_option {word : Bytes} (notEnd : word ≠ endMark) (isOption : IsOption word)
    (rest : List Bytes) : leadingOption? (word :: rest) = some word := by
  rw [leadingOption?, List.takeWhile_cons_of_pos (by simpa using notEnd)]
  exact List.find?_cons_of_pos (by simpa using isOption)

theorem leadingOption?_value {word : Bytes} (isValue : ¬ IsOption word) (rest : List Bytes) :
    leadingOption? (word :: rest) = leadingOption? rest := by
  have notEnd : word ≠ endMark := fun same => isValue (same ▸ isOption_endMark)
  rw [leadingOption?, List.takeWhile_cons_of_pos (by simpa using notEnd)]
  exact List.find?_cons_of_neg (by simpa using isValue)

theorem leadingValues_endMark (rest : List Bytes) : leadingValues (endMark :: rest) = rest := by
  rw [leadingValues, if_pos (leadingOption?_endMark rest), List.erase_cons_head]

theorem leadingValues_option {word : Bytes} (notEnd : word ≠ endMark) (isOption : IsOption word)
    (rest : List Bytes) : leadingValues (word :: rest) = [] := by
  rw [leadingValues, leadingOption?_option notEnd isOption, if_neg (Option.some_ne_none word)]
  exact List.takeWhile_cons_of_neg (by simpa using isOption)

theorem leadingValues_value {word : Bytes} (isValue : ¬ IsOption word) (rest : List Bytes) :
    leadingValues (word :: rest) = word :: leadingValues rest := by
  have notEnd : word ≠ endMark := fun same => isValue (same ▸ isOption_endMark)
  unfold leadingValues
  rw [leadingOption?_value isValue]
  split
  · exact List.erase_cons_tail (by simpa using notEnd)
  · exact List.takeWhile_cons_of_pos (by simpa using isValue)

/-! ## Reading values -/

theorem checkLast_of_empty {given : List Bytes} (last : given.getLast? = some []) :
    checkLast given = .error (.emptyValue (.ofIndex (given.length - 1))) := by
  rw [checkLast, last]

theorem checkLast_of_nonempty {given : List Bytes} (last : given.getLast? ≠ some []) :
    checkLast given = .ok () := by
  unfold checkLast
  split
  · exact absurd (by assumption) last
  · rfl

theorem findIdx?_isEmpty_eq_none_iff (given : List Bytes) :
    given.findIdx? List.isEmpty = none ↔ [] ∉ given := by
  rw [List.findIdx?_eq_none_iff]
  constructor
  · exact fun nonempty empty => nomatch nonempty [] empty
  · intro clean word member
    have nonempty : word ≠ [] := fun empty => clean (empty ▸ member)
    simpa using nonempty

theorem overtaken?_eq_none_iff (given : List Bytes) :
    overtaken? given = none ↔ [] ∉ given.dropLast :=
  findIdx?_isEmpty_eq_none_iff given.dropLast

/-- No value is empty exactly if none is overtaken and the last one is not. -/
theorem nil_notMem_iff (given : List Bytes) :
    [] ∉ given ↔ overtaken? given = none ∧ given.getLast? ≠ some [] := by
  rw [overtaken?_eq_none_iff]
  rcases List.eq_nil_or_concat given with empty | ⟨earlier, last, split⟩
  · simp [empty]
  · rw [List.concat_eq_append] at split
    rw [split, List.dropLast_concat, List.getLast?_concat, List.mem_append, List.mem_singleton,
      not_or, ne_eq, Option.some.injEq, eq_comm (a := last)]

/-- An empty value that is followed by another is the first such if there is none before it. -/
theorem overtaken?_append {front : List Bytes} (clean : [] ∉ front) (next : Bytes)
    (rest : List Bytes) : overtaken? (front ++ [] :: next :: rest) = some front.length := by
  rw [overtaken?, List.dropLast_append_of_ne_nil (List.cons_ne_nil _ _), List.findIdx?_append,
    (findIdx?_isEmpty_eq_none_iff front).mpr clean]
  simp [List.findIdx?_cons]

/-- Values are taken up to the first empty one that is overtaken. -/
theorem values_append {ended : Bool} {front : List Bytes}
    (plain : ∀ word ∈ front, (if ended then Word.value else Word.ofBytes word) = .value)
    (given rest : List Bytes) (clean : [] ∉ given.dropLast) :
    values given ended (front ++ rest) =
      match overtaken? (given ++ front) with
      | some place => .error (.emptyValue (.ofIndex place))
      | none => values (given ++ front) ended rest := by
  induction front generalizing given with
  | nil => rw [List.append_nil, (overtaken?_eq_none_iff given).mpr clean, List.nil_append]
  | cons word front ih =>
      rw [List.cons_append, values_cons_of_value (plain word List.mem_cons_self)]
      by_cases last : given.getLast? = some []
      -- The word overtakes the empty value before it, the first one since `given` is clean so far.
      · rcases List.getLast?_eq_some_iff.mp last with ⟨earlier, split⟩
        have place : overtaken? (given ++ word :: front) = some (given.length - 1) := by
          rw [split, List.dropLast_concat] at clean
          rw [split, List.append_assoc, List.singleton_append, overtaken?_append clean]
          simp
        rw [checkLast_of_empty last, place]
        rfl
      · have cleanNext : [] ∉ (given ++ [word]).dropLast := by
          rw [List.dropLast_concat]
          exact (nil_notMem_iff given).mpr ⟨(overtaken?_eq_none_iff given).mpr clean, last⟩
        have later := ih (fun other member => plain other (List.mem_cons_of_mem _ member))
          (given ++ [word]) cleanNext
        rw [List.append_assoc, List.singleton_append] at later
        rw [checkLast_of_nonempty last]
        exact later

/-- Where there is no option, every word but the mark is read as a value. -/
theorem values_of_no_option {leading : List Bytes} (noOption : leadingOption? leading = none)
    (given : List Bytes) :
    values given false leading = values given true (leadingValues leading) := by
  induction leading generalizing given with
  | nil => rfl
  | cons word rest ih =>
      by_cases mark : word = endMark
      · rw [mark, leadingValues_endMark, values]
        rfl
      · by_cases isOption : IsOption word
        · rw [leadingOption?_option mark isOption] at noOption
          cases noOption
        · have kind := (ofBytes_eq_value_iff_not_isOption word).mpr isOption
          rw [leadingOption?_value isOption] at noOption
          rw [leadingValues_value isOption, values_cons_of_value (by simpa using kind),
            values_cons_of_value rfl]
          simp only [ih noOption]

/-- Where there is an option, it follows the values before it. -/
theorem split_at_option {leading : List Bytes} {option : Bytes}
    (first : leadingOption? leading = some option) :
    (∃ rest, leading = leadingValues leading ++ option :: rest) ∧
      (∀ word ∈ leadingValues leading, Word.ofBytes word = .value) ∧
      Word.ofBytes option ≠ .value ∧ option ≠ endMark := by
  induction leading with
  | nil => cases first
  | cons word rest ih =>
      by_cases mark : word = endMark
      · rw [mark, leadingOption?_endMark] at first
        cases first
      · by_cases isOption : IsOption word
        · rw [leadingOption?_option mark isOption] at first
          cases first
          rw [leadingValues_option mark isOption]
          refine ⟨⟨rest, rfl⟩, ?_, ?_, mark⟩
          · exact fun _ impossible => nomatch impossible
          · exact fun kind => (ofBytes_eq_value_iff_not_isOption option).mp kind isOption
        · rw [leadingOption?_value isOption] at first
          have later := ih first
          have kind := (ofBytes_eq_value_iff_not_isOption word).mpr isOption
          rw [leadingValues_value isOption]
          rcases later.1 with ⟨others, split⟩
          refine ⟨⟨others, congrArg (List.cons word) split⟩, ?_, later.2.2⟩
          intro other member
          rcases List.mem_cons.mp member with equal | inside
          · exact equal ▸ kind
          · exact later.2.1 other inside

/-! ## The closed form -/

/-- Without an option all values are read, unless an empty one is overtaken. -/
theorem values_without_option {leading : List Bytes} (noOption : leadingOption? leading = none) :
    values [] false leading =
      match overtaken? (leadingValues leading) with
      | some place => .error (.emptyValue (.ofIndex place))
      | none => values (leadingValues leading) true [] := by
  have plain : ∀ word ∈ leadingValues leading,
      (if true then Word.value else Word.ofBytes word) = .value := fun _ _ => rfl
  have read := values_append plain [] [] List.not_mem_nil
  rw [List.append_nil, List.nil_append] at read
  rw [values_of_no_option noOption, read]

/-- With an option the values before it are read, unless an empty one is overtaken. -/
theorem values_with_option {leading : List Bytes} {option : Bytes}
    (first : leadingOption? leading = some option) :
    ∃ rest, values [] false leading =
      match overtaken? (leadingValues leading) with
      | some place => .error (.emptyValue (.ofIndex place))
      | none => values (leadingValues leading) false (option :: rest) := by
  rcases split_at_option first with ⟨⟨rest, split⟩, kinds, _⟩
  have plain : ∀ word ∈ leadingValues leading,
      (if false then Word.value else Word.ofBytes word) = .value := kinds
  have read := values_append plain [] (option :: rest) List.not_mem_nil
  rw [← split, List.nil_append] at read
  exact ⟨rest, read⟩

/-- An empty value that another follows ends the reading, whatever comes later. -/
theorem values_of_overtaken {leading : List Bytes} {place : Nat}
    (first : overtaken? (leadingValues leading) = some place) :
    values [] false leading = .error (.emptyValue (.ofIndex place)) := by
  cases found : leadingOption? leading with
  | none => rw [values_without_option found, first]
  | some option =>
      rcases values_with_option found with ⟨rest, read⟩
      rw [read, first]

/-- Where there is no option, the last value is looked at in the end. -/
theorem values_to_end {leading : List Bytes} (intact : overtaken? (leadingValues leading) = none)
    (noOption : leadingOption? leading = none) :
    values [] false leading =
      checkLast (leadingValues leading) >>= fun _ => .ok (leadingValues leading) := by
  rw [values_without_option noOption, intact]
  exact values.eq_1 _ _

/-- Where there is an option, it is looked at after the values before it. -/
theorem values_to_option {leading : List Bytes} {option : Bytes}
    (intact : overtaken? (leadingValues leading) = none)
    (first : leadingOption? leading = some option) :
    ∃ rest, values [] false leading =
      match Word.ofBytes option with
      | .endOfOptions => values (leadingValues leading) true rest
      | .value =>
          checkLast (leadingValues leading) >>= fun _ =>
            values (leadingValues leading ++ [option]) false rest
      | .flag flag => checkLast (leadingValues leading) >>= fun _ => .error flag.refusal
      | .flagValue flag value =>
          .error (.unexpectedValue flag value (isTaken (leadingValues leading)))
      | .unknown text similar => .error (.unknownOption text similar) := by
  rcases values_with_option first with ⟨rest, read⟩
  rw [intact] at read
  exact ⟨rest, read⟩

/-! ## Whole lines -/

theorem parse_of_error {words : List Bytes} {refusal : Refusal}
    (read : values [] false ((words.drop 1).take leadingCount) = .error refusal) :
    parse words = .error refusal := by
  rw [parse, read]
  rfl

theorem parse_of_few {words given : List Bytes}
    (read : values [] false ((words.drop 1).take leadingCount) = .ok given)
    (few : given.length < leadingCount) :
    parse words = .error (.missing (Positional.all.drop given.length)) := by
  rw [parse, read]
  simp only [bind, Except.bind]
  split
  · exact absurd few (Nat.lt_irrefl leadingCount)
  · rfl

theorem parse_of_enough {words given : List Bytes}
    (read : values [] false ((words.drop 1).take leadingCount) = .ok given)
    (enough : leadingCount ≤ given.length) : ∃ line, parse words = .ok line := by
  rcases values_taken read with ⟨_, taken, split, within, _⟩
  rw [List.nil_append] at split
  have most := Nat.le_trans within.length_le (List.length_take_le leadingCount _)
  rw [← split] at most
  rcases List.length_eq_three.mp (Nat.le_antisymm most enough) with
    ⟨compiler, target, placeholder, all⟩
  rw [parse, read, all]
  exact ⟨_, rfl⟩

/-- A merge is refused with the reading of the leading words, or after it for the lack of values. -/
theorem parse_eq_error_iff_values (words : List Bytes) (refusal : Refusal) :
    parse words = .error refusal ↔
      values [] false ((words.drop 1).take leadingCount) = .error refusal ∨
      ∃ given, values [] false ((words.drop 1).take leadingCount) = .ok given ∧
        given.length < leadingCount ∧
        refusal = .missing (Positional.all.drop given.length) := by
  constructor
  · intro refused
    cases read : values [] false ((words.drop 1).take leadingCount) with
    | error other =>
        have same := (parse_of_error read).symm.trans refused
        exact Or.inl (congrArg Except.error (Except.error.inj same))
    | ok given =>
        by_cases few : given.length < leadingCount
        · have same := (parse_of_few read few).symm.trans refused
          exact Or.inr ⟨given, rfl, few, (Except.error.inj same).symm⟩
        · rcases parse_of_enough read (Nat.not_lt.mp few) with ⟨line, accepted⟩
          cases accepted.symm.trans refused
  · rintro (ended | ⟨given, read, few, missing⟩)
    · exact parse_of_error ended
    · rw [missing]
      exact parse_of_few read few

end CommandLine
end AstLink
