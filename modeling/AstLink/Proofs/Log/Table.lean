import AstLink.Log.Table
import Mathlib.Data.List.Find
import Mathlib.Data.List.Induction

namespace AstLink
namespace Log
namespace Table

/-!
What is found in a sorted table.

The entries of a table are put in one after the other.  A search goes from the greatest entry down
and stops at the first for which a test holds.  If the test cannot tell entries apart that are
level, then the entry found is the one that *prevails* in the list of all entries as they came: none
for which the test holds is greater, and none that came later is level with it
(`gives_find?_ofList`).  The table itself has no part in that.
-/

variable {X : Type} {order : X -> X -> Ordering}

variable (order) in
/-- The entries of a list in their places, those driven out by later ones left out. -/
def ofList (entries : List X) : List X :=
  entries.foldl (fun table entry => insert order entry table) []

theorem ofList_concat (entries : List X) (last : X) :
    ofList order (entries ++ [last]) = insert order last (ofList order entries) := by
  rw [ofList, List.foldl_append]
  rfl

variable {entry : X} {table : List X}

theorem mem_of_mem_insert {other : X} (member : other ∈ insert order entry table) :
    other = entry ∨ other ∈ table := by
  induction table with
  | nil => exact Or.inl (List.mem_singleton.mp member)
  | cons head table ih =>
      unfold insert at member
      cases compared : order entry head with
      | gt =>
          rw [compared] at member
          exact List.mem_cons.mp member
      | eq =>
          rw [compared] at member
          exact (List.mem_cons.mp member).imp_right (List.mem_cons_of_mem head)
      | lt =>
          rw [compared] at member
          rcases List.mem_cons.mp member with first | later
          · exact Or.inr (first ▸ List.mem_cons_self)
          · exact (ih later).imp_right (List.mem_cons_of_mem head)

theorem mem_of_mem_ofList {entries : List X} (member : entry ∈ ofList order entries) :
    entry ∈ entries := by
  induction entries using List.reverseRecOn with
  | nil => exact member
  | append_singleton entries last ih =>
      rw [ofList_concat] at member
      rcases mem_of_mem_insert member with added | kept
      · exact List.mem_append_right _ (List.mem_singleton.mpr added)
      · exact List.mem_append_left _ (ih kept)

section Ordered

variable [Std.TransCmp order]

theorem isLE_of_not_lt {first second : X} (atLeast : order first second ≠ .lt) :
    (order second first).isLE = true := by
  have swapped : order second first = (order first second).swap := Std.OrientedCmp.eq_swap
  rw [swapped]
  cases compared : order first second with
  | lt => exact absurd compared atLeast
  | eq => rfl
  | gt => rfl

/-! ## The places -/

variable (order) in
/-- Sorted from the greatest entry, with no two that are level. -/
def Sorted (table : List X) : Prop := table.Pairwise (fun first second => order first second = .gt)

theorem insert_sorted (sorted : Sorted order table) : Sorted order (insert order entry table) := by
  induction table with
  | nil => exact List.pairwise_singleton _ _
  | cons head table ih =>
      have below {other : X} (member : other ∈ table) := List.rel_of_pairwise_cons sorted member
      have rest := List.Pairwise.of_cons sorted
      unfold insert
      cases compared : order entry head with
      | gt =>
          refine List.Pairwise.cons (fun other member => ?_) sorted
          rcases List.mem_cons.mp member with first | later
          · exact first ▸ compared
          · exact Std.TransCmp.gt_trans compared (below later)
      | eq =>
          refine List.Pairwise.cons (fun other member => ?_) rest
          exact Std.TransCmp.congr_left compared ▸ below member
      | lt =>
          refine List.Pairwise.cons (fun other member => ?_) (ih rest)
          rcases mem_of_mem_insert member with added | kept
          · exact added ▸ Std.OrientedCmp.gt_iff_lt.mpr compared
          · exact below kept

variable (order) in
theorem ofList_sorted (entries : List X) : Sorted order (ofList order entries) := by
  induction entries using List.reverseRecOn with
  | nil => exact List.Pairwise.nil
  | append_singleton entries last ih =>
      rw [ofList_concat]
      exact insert_sorted ih

/-- Entries that are not level can be put in in either order. -/
theorem insert_comm {first second : X} (apart : order first second ≠ .eq) (table : List X) :
    insert order second (insert order first table) =
      insert order first (insert order second table) := by
  -- It is enough to say so for the greater of the two as the second one.
  have ordered {first second : X} (above : order second first = .gt) (table : List X) :
      insert order second (insert order first table) =
        insert order first (insert order second table) := by
    have below : order first second = .lt := Std.OrientedCmp.gt_iff_lt.mp above
    induction table with
    | nil => simp only [insert, above, below]
    | cons head table ih =>
        cases compared : order first head with
        | gt =>
            have past := Std.TransCmp.gt_trans above compared
            simp only [insert, compared, past, above, below]
        | eq =>
            have past : order second head = .gt := Std.TransCmp.gt_of_gt_of_eq above compared
            simp only [insert, compared, past, above, below]
        | lt =>
            cases compared' : order second head with
            | gt => simp only [insert, compared, compared', below]
            | eq => simp only [insert, compared, compared', below]
            | lt => simp only [insert, compared, compared', ih]
  cases compared : order first second with
  | lt => exact ordered (Std.OrientedCmp.gt_iff_lt.mpr compared) table
  | eq => exact absurd compared apart
  | gt => exact (ordered compared table).symm

/-! ## Searching -/

variable (order) in
/-- A test that does not tell level entries apart. -/
def Topical (test : X -> Bool) : Prop :=
  ∀ first second : X, order first second = .eq -> test first = test second

variable {test : X -> Bool}

omit [Std.TransCmp order] in
/-- An entry for which the test fails changes nothing for the search. -/
theorem find?_insert_of_silent (topical : Topical order test) (silent : test entry = false) :
    (insert order entry table).find? test = table.find? test := by
  induction table with
  | nil => exact List.find?_cons_of_neg (Bool.eq_false_iff.mp silent)
  | cons head table ih =>
      unfold insert
      cases compared : order entry head with
      | gt => exact List.find?_cons_of_neg (Bool.eq_false_iff.mp silent)
      | eq =>
          have quiet : test head = false := topical _ _ compared ▸ silent
          simp only [List.find?_cons, silent, quiet]
      | lt => simp only [List.find?_cons, ih]

/-- One for which it holds is not found where a greater one is. -/
theorem find?_insert_of_lt {greater : X} (topical : Topical order test)
    (sorted : Sorted order table) (relevant : test entry = true)
    (found : table.find? test = some greater) (beneath : order entry greater = .lt) :
    (insert order entry table).find? test = some greater := by
  induction table with
  | nil => cases found
  | cons head table ih =>
      cases said : test head with
      | true =>
          rw [List.find?_cons_of_pos said] at found
          cases found
          simp only [insert, beneath, List.find?_cons_of_pos said]
      | false =>
          simp only [List.find?_cons, said] at found
          unfold insert
          cases compared : order entry head with
          | gt =>
              -- The greater entry stands behind the head, which is less than the new one.
              have behind := List.rel_of_pairwise_cons sorted (List.mem_of_find?_eq_some found)
              rw [Std.TransCmp.gt_trans compared behind] at beneath
              cases beneath
          | eq =>
              rw [topical _ _ compared, said] at relevant
              cases relevant
          | lt =>
              simp only [List.find?_cons, said]
              exact ih (List.Pairwise.of_cons sorted) found

omit [Std.TransCmp order] in
/-- Otherwise it is found. -/
theorem find?_insert_of_not_lt (relevant : test entry = true)
    (atLeast : ∀ other, table.find? test = some other -> order entry other ≠ .lt) :
    (insert order entry table).find? test = some entry := by
  induction table with
  | nil => exact List.find?_cons_of_pos relevant
  | cons head table ih =>
      unfold insert
      cases compared : order entry head with
      | gt => exact List.find?_cons_of_pos relevant
      | eq => exact List.find?_cons_of_pos relevant
      | lt =>
          cases said : test head with
          | true => exact absurd compared (atLeast head (List.find?_cons_of_pos said))
          | false =>
              simp only [List.find?_cons, said] at atLeast ⊢
              exact ih atLeast

/-! ## What prevails -/

variable (order) in
/-- The last of the greatest entries for which a test holds, in the order in which they came. -/
def Prevails (test : X -> Bool) (entry : X) (entries : List X) : Prop :=
  ∃ before after, entries = before ++ entry :: after ∧ test entry = true ∧
    (∀ earlier ∈ before, test earlier = true -> (order earlier entry).isLE = true) ∧
    ∀ later ∈ after, test later = true -> order later entry = .lt

variable {entries : List X}

omit [Std.TransCmp order] in
theorem Prevails.mem (prevails : Prevails order test entry entries) : entry ∈ entries := by
  rcases prevails with ⟨before, after, split, -⟩
  exact split ▸ List.mem_append_right before List.mem_cons_self

omit [Std.TransCmp order] in
theorem Prevails.relevant (prevails : Prevails order test entry entries) : test entry = true := by
  rcases prevails with ⟨before, after, -, relevant, -⟩
  exact relevant

/-- Nothing is greater than what prevails. -/
theorem Prevails.isLE (prevails : Prevails order test entry entries) :
    ∀ other ∈ entries, test other = true -> (order other entry).isLE = true := by
  rcases prevails with ⟨before, after, split, -, earlier, later⟩
  intro other member relevant
  rw [split] at member
  rcases List.mem_append.mp member with front | back
  · exact earlier other front relevant
  · rcases List.mem_cons.mp back with same | behind
    · exact same ▸ Std.ReflCmp.isLE_rfl
    · rw [later other behind relevant]
      rfl

omit [Std.TransCmp order] in
/-- What comes last prevails, or leaves that to what prevailed before it. -/
theorem prevails_concat_iff (entries : List X) (last entry : X) :
    Prevails order test entry (entries ++ [last]) ↔
      (entry = last ∧ test last = true ∧
        ∀ earlier ∈ entries, test earlier = true -> (order earlier last).isLE = true) ∨
      (Prevails order test entry entries ∧ (test last = true -> order last entry = .lt)) := by
  constructor
  · rintro ⟨before, after, split, relevant, earlier, later⟩
    rcases List.eq_nil_or_concat after with none | ⟨middle, final, shape⟩
    · subst none
      have parts := List.append_inj' split rfl
      have same : last = entry := List.head_eq_of_cons_eq parts.2
      subst same
      exact Or.inl ⟨rfl, relevant, parts.1 ▸ earlier⟩
    · rw [List.concat_eq_append] at shape
      subst shape
      rw [← List.cons_append, ← List.append_assoc] at split
      have parts := List.append_inj' split rfl
      have same : last = final := List.head_eq_of_cons_eq parts.2
      subst same
      exact Or.inr ⟨⟨before, middle, parts.1, relevant, earlier,
        fun other member => later other (List.mem_append_left _ member)⟩,
        later last (List.mem_append_right _ List.mem_cons_self)⟩
  · rintro (⟨rfl, relevant, earlier⟩ | ⟨⟨before, after, split, relevant, earlier, later⟩, beyond⟩)
    · exact ⟨entries, [], rfl, relevant, earlier, fun _ impossible => nomatch impossible⟩
    · refine ⟨before, after ++ [last], by rw [split, List.append_assoc, List.cons_append], relevant,
        earlier, fun other member => ?_⟩
      rcases List.mem_append.mp member with inside | final
      · exact later other inside
      · exact List.mem_singleton.mp final ▸ beyond

variable (order) in
/-- A search gives the entry that prevails, and gives none only if the test holds for none. -/
structure Gives (test : X -> Bool) (search : Option X) (entries : List X) : Prop where
  found : ∀ entry, search = some entry ↔ Prevails order test entry entries
  missed : search = none -> ∀ entry ∈ entries, test entry = false

namespace Gives

variable {search : Option X} {last : X}

omit [Std.TransCmp order] in
theorem nil : Gives order test none [] where
  found := fun _ => iff_of_false (fun impossible => nomatch impossible) fun prevails =>
    nomatch prevails.mem
  missed := fun _ _ impossible => nomatch impossible

omit [Std.TransCmp order] in
/-- What comes last and fails the test leaves the search as it is. -/
theorem concat_of_silent (gives : Gives order test search entries) (silent : test last = false) :
    Gives order test search (entries ++ [last]) where
  found := fun entry => by
    rw [gives.found, prevails_concat_iff, silent]
    simp
  missed := fun none entry member => by
    rcases List.mem_append.mp member with inside | final
    · exact gives.missed none entry inside
    · exact List.mem_singleton.mp final ▸ silent

/-- So does what is less than the entry found. -/
theorem concat_of_lt {greater : X} (gives : Gives order test (some greater) entries)
    (beneath : order last greater = .lt) :
    Gives order test (some greater) (entries ++ [last]) where
  found := fun entry => by
    rw [prevails_concat_iff, ← gives.found]
    constructor
    · intro same
      cases same
      exact Or.inr ⟨rfl, fun _ => beneath⟩
    · rintro (⟨-, -, most⟩ | ⟨same, -⟩)
      · have prevails := (gives.found greater).mp rfl
        have below := most greater prevails.mem prevails.relevant
        rw [Std.OrientedCmp.gt_iff_lt.mpr beneath] at below
        cases below
      · exact same
  missed := fun impossible => nomatch impossible

/-- What passes the test and is not less is found from then on. -/
theorem concat_of_not_lt (gives : Gives order test search entries) (relevant : test last = true)
    (atLeast : ∀ entry, search = some entry -> order last entry ≠ .lt) :
    Gives order test (some last) (entries ++ [last]) where
  found := fun entry => by
    have most {other : X} (member : other ∈ entries) (passes : test other = true) :
        (order other last).isLE = true := by
      cases found : search with
      | none =>
          rw [gives.missed found other member] at passes
          cases passes
      | some greatest =>
          have below := ((gives.found greatest).mp found).isLE other member passes
          exact Std.TransCmp.isLE_trans below (isLE_of_not_lt (atLeast greatest found))
    rw [prevails_concat_iff, ← gives.found]
    constructor
    · intro same
      cases same
      exact Or.inl ⟨rfl, relevant, fun other => most⟩
    · rintro (⟨same, -⟩ | ⟨found, less⟩)
      · rw [same]
      · exact absurd (less relevant) (atLeast entry found)
  missed := fun impossible => nomatch impossible

end Gives

/-- The search of a table gives what prevails. -/
theorem gives_find?_ofList (topical : Topical order test) (entries : List X) :
    Gives order test ((ofList order entries).find? test) entries := by
  induction entries using List.reverseRecOn with
  | nil => exact .nil
  | append_singleton entries last gives =>
      rw [ofList_concat]
      cases said : test last with
      | false =>
          rw [find?_insert_of_silent topical said]
          exact gives.concat_of_silent said
      | true =>
          by_cases beneath : ∃ greater, (ofList order entries).find? test = some greater ∧
            order last greater = .lt
          · rcases beneath with ⟨greater, search, beneath⟩
            rw [find?_insert_of_lt topical (ofList_sorted order entries) said search beneath]
            rw [search] at gives
            exact gives.concat_of_lt beneath
          · have atLeast (other : X) (search : (ofList order entries).find? test = some other) :
                order last other ≠ .lt := fun less => beneath ⟨other, search, less⟩
            rw [find?_insert_of_not_lt said atLeast]
            exact gives.concat_of_not_lt said atLeast

end Ordered

end Table
end Log
end AstLink
