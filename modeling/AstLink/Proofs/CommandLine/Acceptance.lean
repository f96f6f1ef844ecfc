import AstLink.CommandLine

namespace AstLink
namespace CommandLine

/-!
Which command lines are accepted.

The leading words are read with a state: the values read so far, the last of which has not been
looked at yet, and whether the options have been ended.  Ending the options costs a word, and there
are no more leading words than values that are needed.  So a line is accepted only if each leading
word is a value by itself, and in that case no word is altered, dropped or moved
(`parse_eq_ok_iff`).
-/

/-- A word that is a value wherever it stands among the leading words: it is not empty, and it
does not begin with a dash unless it is the dash alone. -/
def IsValue (word : Bytes) : Prop :=
  word ≠ [] ∧ (word = [Bytes.dash] ∨ word.head? ≠ some Bytes.dash)

instance : DecidablePred IsValue := fun _ => inferInstanceAs (Decidable (_ ∧ _))

/-! ## Words -/

namespace Word

theorem ofLong_ne_value (body : Bytes) : ofLong body ≠ .value := by
  unfold ofLong
  split
  split <;> exact fun impossible => nomatch impossible

theorem ofShort_ne_value (body : Bytes) : ofShort body ≠ .value := by
  unfold ofShort
  split
  · split <;> exact fun impossible => nomatch impossible
  · exact fun impossible => nomatch impossible

/-- What a word is by itself: a value exactly if it is a dash or does not begin with one. -/
theorem ofBytes_eq_value_iff (bytes : Bytes) :
    ofBytes bytes = .value ↔ bytes = [Bytes.dash] ∨ bytes.head? ≠ some Bytes.dash := by
  cases bytes with
  | nil => simp [ofBytes]
  | cons first others =>
      cases others with
      | nil =>
          simp only [ofBytes, List.head?_cons, List.cons.injEq, and_true, true_iff]
          by_cases dash : first = Bytes.dash
          · exact Or.inl dash
          · exact Or.inr (fun same => dash (Option.some.inj same))
      | cons second rest =>
          by_cases dash : first = Bytes.dash
          · subst dash
            have option : ofBytes (Bytes.dash :: second :: rest) ≠ .value := by
              unfold ofBytes
              simp only [if_true]
              split
              · split
                · exact fun impossible => nomatch impossible
                · exact ofLong_ne_value rest
              · exact ofShort_ne_value (second :: rest)
            simp [option]
          · simp [ofBytes, dash]

end Word

/-! ## Values -/

/-- Reading goes on after the last value has been looked at only if that is not empty. -/
theorem checkLast_bind_eq_ok_iff {X : Type} (given : List Bytes) (next : Unit -> Except Refusal X)
    (result : X) :
    (checkLast given >>= next) = .ok result ↔
      given.getLast? ≠ some [] ∧ next () = .ok result := by
  unfold checkLast
  split
  · rename_i empty
    simp [empty, bind, Except.bind]
  · rename_i nonempty
    exact ⟨fun read => ⟨nonempty, read⟩, fun both => both.2⟩

/-- A value is taken after the one before it has been looked at. -/
theorem values_cons_of_value {given : List Bytes} {ended : Bool} {word : Bytes}
    (kind : (if ended then Word.value else Word.ofBytes word) = .value) (rest : List Bytes) :
    values given ended (word :: rest) =
      checkLast given >>= fun _ => values (given ++ [word]) ended rest := by
  rw [values, kind]

theorem values_of_value {given rest result : List Bytes} {ended : Bool} {word : Bytes}
    (kind : (if ended then Word.value else Word.ofBytes word) = .value) :
    values given ended (word :: rest) = .ok result ↔
      given.getLast? ≠ some [] ∧ values (given ++ [word]) ended rest = .ok result := by
  rw [values_cons_of_value kind]
  exact checkLast_bind_eq_ok_iff given _ result

/-- What reading words comes to where it succeeds: values are taken from them in order, and none of
these is empty.  If all words are taken, each is a value by itself. -/
theorem values_taken {words given result : List Bytes} {ended : Bool}
    (read : values given ended words = .ok result) :
    given.getLast? ≠ some [] ∧ ∃ taken, result = given ++ taken ∧ taken.Sublist words ∧
      (∀ word ∈ taken, word ≠ []) ∧
      (taken = words -> ended = false -> ∀ word ∈ words, Word.ofBytes word = .value) := by
  induction words generalizing given ended with
  | nil =>
      rw [values] at read
      have checked := (checkLast_bind_eq_ok_iff given _ result).mp read
      refine ⟨checked.1, [], ?_, List.Sublist.refl [], ?_, ?_⟩
      · rw [List.append_nil]
        exact (Except.ok.inj checked.2).symm
      · exact fun _ impossible => absurd impossible List.not_mem_nil
      · exact fun _ _ _ impossible => absurd impossible List.not_mem_nil
  | cons word rest ih =>
      cases kind : (if ended then Word.value else Word.ofBytes word) with
      | value =>
          have step := (values_of_value kind).mp read
          rcases ih step.2 with ⟨last, taken, split, within, nonempty, plain⟩
          have wordNonempty : word ≠ [] := by simpa using last
          refine ⟨step.1, word :: taken, by rw [split, List.append_assoc, List.singleton_append],
            within.cons_cons word, ?_, ?_⟩
          · intro other member
            rcases List.mem_cons.mp member with equal | later
            · exact equal ▸ wordNonempty
            · exact nonempty other later
          · intro all unended other member
            rcases List.mem_cons.mp member with equal | later
            · rw [unended] at kind
              exact equal ▸ kind
            · exact plain (List.cons.inj all).2 unended other later
      | endOfOptions =>
          rw [values, kind] at read
          rcases ih read with ⟨last, taken, split, within, nonempty, _⟩
          refine ⟨last, taken, split, within.cons word, nonempty, ?_⟩
          -- The word that ended the options is missing from the values.
          intro all
          have shorter := within.length_le
          rw [all, List.length_cons] at shorter
          exact absurd shorter (Nat.not_succ_le_self rest.length)
      | flag flag =>
          rw [values, kind] at read
          have thrown := ((checkLast_bind_eq_ok_iff given _ result).mp read).2
          cases thrown
      | flagValue flag value =>
          rw [values, kind] at read
          cases read
      | unknown text similar =>
          rw [values, kind] at read
          cases read

/-- Values that are none of them empty are all taken. -/
theorem values_of_isValue {words given : List Bytes} (plain : ∀ word ∈ words, IsValue word)
    (last : given.getLast? ≠ some []) : values given false words = .ok (given ++ words) := by
  induction words generalizing given with
  | nil =>
      rw [values, List.append_nil]
      exact (checkLast_bind_eq_ok_iff given _ given).mpr ⟨last, rfl⟩
  | cons word rest ih =>
      have first := plain word List.mem_cons_self
      have kind : Word.ofBytes word = .value := (Word.ofBytes_eq_value_iff word).mpr first.2
      have later := ih (fun other member => plain other (List.mem_cons_of_mem word member))
        (show (given ++ [word]).getLast? ≠ some [] by simpa using first.1)
      rw [values_of_value (by simpa using kind)]
      refine ⟨last, ?_⟩
      rw [later, List.append_assoc, List.singleton_append]

/-- Reading some words gives as many values only if it gives these very words. -/
theorem values_eq_ok_iff {words result : List Bytes} (enough : words.length ≤ result.length) :
    values [] false words = .ok result ↔ result = words ∧ ∀ word ∈ words, IsValue word := by
  constructor
  · intro read
    rcases values_taken read with ⟨_, taken, split, within, nonempty, plain⟩
    rw [List.nil_append] at split
    subst split
    have all : result = words := within.eq_of_length_le enough
    refine ⟨all, fun word member => ⟨nonempty word (all ▸ member), ?_⟩⟩
    exact (Word.ofBytes_eq_value_iff word).mp (plain all rfl word member)
  · rintro ⟨same, plain⟩
    rw [same]
    exact values_of_isValue plain (by simp)

/-! ## Whole lines -/

/-- A command line leads to a merge exactly if three values come after the name of the program. -/
theorem parse_eq_ok_iff (words : List Bytes) (line : CommandLine) :
    parse words = .ok line ↔
      ∃ program compiler target placeholder libraries,
        words = program :: compiler :: target :: placeholder :: libraries ∧
        (∀ word ∈ [compiler, target, placeholder], IsValue word) ∧
        line = ⟨⟨compiler⟩, ⟨target⟩, ⟨placeholder⟩, libraries.map Path.mk⟩ := by
  constructor
  · intro accepted
    unfold parse at accepted
    cases read : values [] false ((words.drop 1).take leadingCount) with
    | error refusal =>
        rw [read] at accepted
        cases accepted
    | ok result =>
        rw [read] at accepted
        simp only [bind, Except.bind] at accepted
        split at accepted
        · rename_i compiler target placeholder
          cases accepted
          have taken := (values_eq_ok_iff (List.length_take_le leadingCount _)).mp read
          cases words with
          | nil => cases taken.1
          | cons program rest =>
              have front : [compiler, target, placeholder] = rest.take leadingCount := taken.1
              refine ⟨program, compiler, target, placeholder, rest.drop leadingCount, ?_, ?_, rfl⟩
              · have whole := List.take_append_drop leadingCount rest
                rw [← front] at whole
                exact congrArg (List.cons program) whole.symm
              · rw [front]
                exact taken.2
        · cases accepted
  · rintro ⟨program, compiler, target, placeholder, libraries, split, plain, built⟩
    have read : values [] false [compiler, target, placeholder] =
        .ok [compiler, target, placeholder] :=
      (values_eq_ok_iff (Nat.le_refl _)).mpr ⟨rfl, plain⟩
    rw [split, built, parse]
    simp only [List.drop_succ_cons, List.drop_zero, leadingCount, List.take_succ_cons,
      List.take_zero, read]
    rfl

/-- The accepted command lines are those with at least four words of which the second, the third and
the fourth are values.  These and all later words are kept as they are.  The first word is of no
account, not even for a refusal. -/
theorem parse_accepts (words : List Bytes) :
    ((∃ line, parse words = .ok line) ↔
      4 ≤ words.length ∧ ∀ place ∈ [1, 2, 3], IsValue (words.getD place [])) ∧
    (∀ line, parse words = .ok line ->
      line.compiler.bytes = words.getD 1 [] ∧ line.target.bytes = words.getD 2 [] ∧
        line.placeholder.bytes = words.getD 3 [] ∧
        line.libraries.map Path.bytes = words.drop 4) ∧
    ∀ name, parse (words.set 0 name) = parse words := by
  refine ⟨?_, ?_, ?_⟩
  · constructor
    · rintro ⟨line, accepted⟩
      rcases (parse_eq_ok_iff words line).mp accepted with
        ⟨program, compiler, target, placeholder, libraries, split, plain, _⟩
      subst split
      exact ⟨by simp, by simpa using plain⟩
    · rintro ⟨long, plain⟩
      match words, long with
      | program :: compiler :: target :: placeholder :: libraries, _ =>
          refine ⟨_, (parse_eq_ok_iff _ _).mpr
            ⟨program, compiler, target, placeholder, libraries, rfl, ?_, rfl⟩⟩
          simpa using plain
  · intro line accepted
    rcases (parse_eq_ok_iff words line).mp accepted with
      ⟨program, compiler, target, placeholder, libraries, split, _, built⟩
    subst split built
    exact ⟨rfl, rfl, rfl, by simp [Function.comp_def]⟩
  · intro name
    cases words with
    | nil => rfl
    | cons program rest => rfl

end CommandLine
end AstLink
