namespace AstLink
namespace Lists

/-!
Lists in general: where the places of two splits of one list lie, what becomes of a list each of
whose elements has to be read, and what a search finds that goes through a whole list.
-/

/-! ## Splits -/

/-- A beginning that ends with a value which the front does not hold goes beyond the front. -/
theorem exists_append_of_concat_prefix {X : Type} {value : X} {taken back : List X}
    (front : List X) (absent : value ∉ front) (isPrefix : taken ++ [value] <+: front ++ back) :
    ∃ rest, taken = front ++ rest ∧ rest ++ [value] <+: back := by
  induction front generalizing taken with
  | nil => exact ⟨taken, rfl, isPrefix⟩
  | cons first front ih =>
      cases taken with
      | nil =>
          have same := (List.cons_prefix_cons.mp isPrefix).1
          exact absurd (same ▸ List.mem_cons_self) absent
      | cons head taken =>
          have split := List.cons_prefix_cons.mp isPrefix
          rcases ih (fun member => absent (List.mem_cons_of_mem _ member)) split.2 with
            ⟨rest, equal, later⟩
          exact ⟨rest, by rw [split.1, equal, List.cons_append], later⟩

/-- An element behind the front of a list is in the first part of it or in the second. -/
theorem mem_or_later_of_append_eq {X : Type} {value : X} {early late front back : List X}
    (split : early ++ late = front ++ value :: back) :
    value ∈ early ∨ ∃ rest, front = early ++ rest ∧ late = rest ++ value :: back := by
  rcases List.append_eq_append_iff.mp split with ⟨rest, equal, later⟩ | ⟨rest, equal, later⟩
  · exact Or.inr ⟨rest, equal, later⟩
  · cases rest with
    | nil =>
        refine Or.inr ⟨[], ?_, later.symm⟩
        rw [equal, List.append_nil, List.append_nil]
    | cons first rest =>
        rw [(List.cons.inj later).1, equal]
        exact Or.inl (List.mem_append_right _ List.mem_cons_self)

/-! ## Lists read as a whole -/

/-- A list is read as a whole exactly up to the first of its elements that cannot be read. -/
theorem mapM_eq_error_iff {X Y E : Type} (read : X -> Except E Y) (values : List X) (reason : E) :
    values.mapM read = .error reason ↔
      ∃ before value after, values = before ++ value :: after ∧
        (∀ earlier ∈ before, ∃ result, read earlier = .ok result) ∧
        read value = .error reason := by
  induction values with
  | nil =>
      constructor
      · intro impossible
        cases impossible
      · rintro ⟨before, value, after, split, _⟩
        simp at split
  | cons first values ih =>
      rw [List.mapM_cons]
      constructor
      · intro failed
        cases outcome : read first with
        | error other =>
            rw [outcome] at failed
            cases failed
            refine ⟨[], first, values, rfl, ?_, outcome⟩
            exact fun _ impossible => absurd impossible List.not_mem_nil
        | ok result =>
            have later : values.mapM read = .error reason := by
              rw [outcome] at failed
              cases others : values.mapM read with
              | error other =>
                  rw [others] at failed
                  cases failed
                  rfl
              | ok results =>
                  rw [others] at failed
                  cases failed
            rcases ih.mp later with ⟨before, value, after, split, readable, broken⟩
            refine ⟨first :: before, value, after, by rw [split, List.cons_append], ?_, broken⟩
            intro earlier member
            rcases List.mem_cons.mp member with equal | inside
            · exact ⟨result, equal ▸ outcome⟩
            · exact readable earlier inside
      · rintro ⟨before, value, after, split, readable, broken⟩
        cases before with
        | nil =>
            cases split
            rw [broken]
            rfl
        | cons head before =>
            cases split
            rcases readable first List.mem_cons_self with ⟨result, outcome⟩
            have later := ih.mpr ⟨before, value, after, rfl,
              fun earlier member => readable earlier (List.mem_cons_of_mem _ member), broken⟩
            rw [outcome, later]
            rfl

/-- A list that is read as a whole has no element that cannot be read. -/
theorem exists_ok_of_mapM {X Y E : Type} {read : X -> Except E Y} {values : List X}
    {results : List Y} (whole : values.mapM read = .ok results) {value : X}
    (member : value ∈ values) : ∃ result, read value = .ok result := by
  induction values generalizing results with
  | nil => cases member
  | cons first values ih =>
      rw [List.mapM_cons] at whole
      cases outcome : read first with
      | error reason =>
          rw [outcome] at whole
          cases whole
      | ok result =>
          cases others : values.mapM read with
          | error reason =>
              rw [outcome, others] at whole
              cases whole
          | ok later =>
              rcases List.mem_cons.mp member with same | inside
              · exact ⟨result, same ▸ outcome⟩
              · exact ih others inside

/-! ## Lists searched as a whole -/

/-- A search that keeps what it has found, or takes the element at hand if it is fit, ends with a
fit element of the list, or with what it began with. -/
theorem foldl_eq_some {X : Type} {P : X -> Prop} {pick : Option X -> X -> Option X}
    (picks : ∀ best value, pick best value = best ∨ pick best value = some value ∧ P value)
    {values : List X} {start : Option X} {result : X}
    (found : values.foldl pick start = some result) :
    start = some result ∨ result ∈ values ∧ P result := by
  induction values generalizing start with
  | nil => exact Or.inl found
  | cons value values ih =>
      rcases ih found with first | ⟨member, fits⟩
      · rcases picks start value with kept | ⟨taken, fits⟩
        · exact Or.inl (kept.symm.trans first)
        · have same : value = result := Option.some.inj (taken.symm.trans first)
          exact Or.inr ⟨same ▸ List.mem_cons_self, same ▸ fits⟩
      · exact Or.inr ⟨List.mem_cons_of_mem _ member, fits⟩

end Lists
end AstLink
