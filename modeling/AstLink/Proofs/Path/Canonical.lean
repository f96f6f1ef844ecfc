import AstLink.Path
import AstLink.Text.Utf8

namespace AstLink

/-!
Canonical paths.

A path stands for its components, and many paths have the same ones.  Of these the canonical path is
the shortest.  Reading its components back gives those it was written from (`components_canonical`),
so it can stand for all of them: paths are equal just if their canonical forms are the same bytes
(`canonical_eq_iff`).

On bytes the canonical form needs no components: it keeps the pieces between slashes that say
something (`bytes_canonical`).
-/

/-! ## Pieces between separators -/

namespace Bytes

/-- The pieces are those of the library's function. -/
theorem splitOn_eq (separator : UInt8) (bytes : Bytes) :
    splitOn separator bytes = List.splitOn separator bytes := by
  induction bytes with
  | nil => rfl
  | cons byte bytes ih =>
      rw [List.splitOn_cons_eq_if_modifyHead, ← ih]
      by_cases same : byte = separator
      · simp [splitOn, same]
      · simp [splitOn, same]

theorem separator_notMem_of_mem_splitOn {separator : UInt8} {bytes piece : Bytes}
    (member : piece ∈ splitOn separator bytes) : separator ∉ piece := by
  rw [splitOn_eq] at member
  induction bytes generalizing piece with
  | nil =>
      rw [List.mem_singleton.mp member]
      exact List.not_mem_nil
  | cons byte bytes ih =>
      rw [List.splitOn_cons_eq_if_modifyHead] at member
      by_cases same : byte = separator
      · rw [if_pos (beq_iff_eq.mpr same)] at member
        rcases List.mem_cons.mp member with first | later
        · rw [first]
          exact List.not_mem_nil
        · exact ih later
      · rw [if_neg (fun equal => same (beq_iff_eq.mp equal))] at member
        cases pieces : List.splitOn separator bytes with
        | nil => exact absurd pieces (List.splitOn_ne_nil separator bytes)
        | cons first others =>
            rw [pieces, List.modifyHead_cons] at member
            rcases List.mem_cons.mp member with extended | later
            · rw [extended]
              intro inside
              rcases List.mem_cons.mp inside with equal | inFirst
              · exact same equal.symm
              · exact ih (pieces ▸ List.mem_cons_self) inFirst
            · exact ih (pieces ▸ List.mem_cons_of_mem _ later)

theorem splitOn_separator (separator : UInt8) (bytes : Bytes) :
    splitOn separator (separator :: bytes) = [] :: splitOn separator bytes := by
  simp [splitOn]

theorem splitOn_byte {separator byte : UInt8} (other : byte ≠ separator) (bytes : Bytes) :
    splitOn separator (byte :: bytes) = (splitOn separator bytes).modifyHead (byte :: ·) := by
  simp [splitOn, other]

end Bytes

namespace Path

/-! ## Components, by pieces -/

theorem componentOf?_nil : componentOf? [] = none := rfl

theorem componentOf?_here : componentOf? hereName = none := rfl

/-- What a path begins with that is not a piece of its own: the root, or the `.` of a relative
path. -/
def lead (bytes : Bytes) : List Component :=
  if bytes.head? = some Bytes.slash then [.root]
  else if (Bytes.splitOn Bytes.slash bytes).head? = some hereName then [.here]
  else []

/-- After the beginning every piece is read in the same way, the first one too. -/
theorem components_eq (path : Path) :
    path.components =
      lead path.bytes ++ (Bytes.splitOn Bytes.slash path.bytes).filterMap componentOf? := by
  rcases path with ⟨bytes⟩
  unfold components lead
  cases bytes with
  | nil => rfl
  | cons byte bytes =>
      by_cases absolute : byte = Bytes.slash
      · subst absolute
        have more : Bytes.splitOn Bytes.slash bytes ≠ [] := by
          rw [Bytes.splitOn_eq]
          exact List.splitOn_ne_nil _ _
        have named : ([] : Bytes) ≠ hereName := nofun
        simp only [Bytes.splitOn_separator, List.head?_cons, if_true, named, more, ne_eq,
          not_false_eq_true, and_self, if_false, List.filterMap_cons, componentOf?_nil]
      · have relative : (byte :: bytes).head? ≠ some Bytes.slash :=
          fun equal => absolute (Option.some.inj equal)
        rw [if_neg relative]
        cases pieces : Bytes.splitOn Bytes.slash bytes with
        | nil =>
            rw [Bytes.splitOn_eq] at pieces
            exact absurd pieces (List.splitOn_ne_nil _ _)
        | cons first others =>
            simp only [Bytes.splitOn_byte absolute, pieces, List.modifyHead_cons, List.head?_cons,
              Option.some.injEq]
            by_cases here : byte :: first = hereName
            · simp only [here, if_true, List.filterMap_cons, componentOf?_here]
            · simp only [here, if_false, List.cons_ne_nil, false_and, List.nil_append]
              cases read : componentOf? (byte :: first) with
              | none => simp [read]
              | some component => simp [read]

/-- A component that can stand anywhere in a path: `..` or an entry, with a name that is read as it
again. -/
structure Component.Inner (component : Component) : Prop where
  read : componentOf? component.bytes = some component
  whole : Bytes.slash ∉ component.bytes

namespace Component

theorem bytes_of_componentOf? {piece : Bytes} {component : Component}
    (read : componentOf? piece = some component) : component.bytes = piece := by
  unfold componentOf? at read
  split at read
  · cases read
  · split at read
    · rename_i above
      cases read
      exact above.symm
    · cases read
      rfl

/-- What the pieces of a path stand for can stand anywhere. -/
theorem inner_pieces (bytes : Bytes) :
    ∀ component ∈ (Bytes.splitOn Bytes.slash bytes).filterMap componentOf?, component.Inner := by
  intro component member
  rcases List.mem_filterMap.mp member with ⟨piece, inside, read⟩
  have same := bytes_of_componentOf? read
  exact ⟨same ▸ read, same ▸ Bytes.separator_notMem_of_mem_splitOn inside⟩

theorem Inner.bytes_ne_nil {component : Component} (inner : component.Inner) :
    component.bytes ≠ [] := by
  intro empty
  have read := inner.read
  rw [empty, componentOf?_nil] at read
  cases read

theorem Inner.bytes_ne_here {component : Component} (inner : component.Inner) :
    component.bytes ≠ hereName := by
  intro here
  have read := inner.read
  rw [here, componentOf?_here] at read
  cases read

/-- Reading the names of inner components gives these components. -/
theorem filterMap_bytes {components : List Component}
    (inner : ∀ component ∈ components, component.Inner) :
    (components.map Component.bytes).filterMap componentOf? = components := by
  induction components with
  | nil => rfl
  | cons component components ih =>
      have first := (inner component List.mem_cons_self).read
      have others := ih (fun other member => inner other (List.mem_cons_of_mem _ member))
      rw [List.map_cons, List.filterMap_cons_some first, others]

end Component

/-! ## Writing components, and reading them back -/

/-- Pieces with one slash between neighbours. -/
def join (pieces : List Bytes) : Bytes := [Bytes.slash].intercalate pieces

theorem splitOn_join {pieces : List Bytes} (whole : ∀ piece ∈ pieces, Bytes.slash ∉ piece)
    (nonempty : pieces ≠ []) : Bytes.splitOn Bytes.slash (join pieces) = pieces := by
  rw [Bytes.splitOn_eq]
  exact List.splitOn_intercalate Bytes.slash whole nonempty

/-- The first byte is that of the first piece, if that has one. -/
theorem head?_join {piece : Bytes} (nonempty : piece ≠ []) (pieces : List Bytes) :
    (join (piece :: pieces)).head? = piece.head? := by
  cases piece with
  | nil => exact absurd rfl nonempty
  | cons byte rest =>
      cases pieces with
      | nil => simp [join]
      | cons next others => simp [join, List.intercalate_cons_cons]

/-- No byte that a piece begins with is a slash, if the piece holds none. -/
theorem head?_ne_of_notMem {piece : Bytes} (whole : Bytes.slash ∉ piece) :
    piece.head? ≠ some Bytes.slash :=
  fun first => whole (List.mem_of_head? first)

theorem bytes_ofComponents_root (components : List Component) :
    (ofComponents (.root :: components)).bytes =
      Bytes.slash :: join (components.map Component.bytes) := by
  cases components with
  | nil => rfl
  | cons component components => rfl

theorem bytes_ofComponents {components : List Component}
    (relative : components.head? ≠ some .root) :
    (ofComponents components).bytes = join (components.map Component.bytes) := by
  unfold ofComponents
  split
  · exact absurd rfl relative
  · rfl

theorem Component.Inner.head?_ne_root {components : List Component}
    (inner : ∀ component ∈ components, component.Inner) : components.head? ≠ some .root := by
  intro first
  exact (inner .root (List.mem_of_head? first)).bytes_ne_nil rfl

/-- The lists of components that paths have: the root and `.` stand only at the beginning. -/
inductive IsComponents : List Component -> Prop
  | absolute {components : List Component}
      (inner : ∀ component ∈ components, component.Inner) : IsComponents (.root :: components)
  | here {components : List Component}
      (inner : ∀ component ∈ components, component.Inner) : IsComponents (.here :: components)
  | relative {components : List Component}
      (inner : ∀ component ∈ components, component.Inner) : IsComponents components

theorem isComponents_components (path : Path) : IsComponents path.components := by
  have inner := Component.inner_pieces path.bytes
  rw [components_eq, lead]
  split
  · exact .absolute inner
  · split
    · exact .here inner
    · exact .relative inner

/-- Components that are written as a path are read back from it. -/
theorem components_ofComponents {components : List Component}
    (isComponents : IsComponents components) :
    (ofComponents components).components = components := by
  have wholePieces {components : List Component}
      (inner : ∀ component ∈ components, component.Inner) :
      ∀ piece ∈ components.map Component.bytes, Bytes.slash ∉ piece := by
    intro piece member
    rcases List.mem_map.mp member with ⟨component, inside, equal⟩
    exact equal ▸ (inner component inside).whole
  rw [components_eq]
  cases isComponents with
  | @absolute components inner =>
      rw [bytes_ofComponents_root, lead, List.head?_cons, if_pos rfl, Bytes.splitOn_separator,
        List.filterMap_cons, componentOf?_nil]
      cases components with
      | nil => rfl
      | cons component components =>
          rw [splitOn_join (wholePieces inner) (List.cons_ne_nil _ _),
            Component.filterMap_bytes inner]
          rfl
  | @here components inner =>
      have whole : ∀ piece ∈ hereName :: components.map Component.bytes, Bytes.slash ∉ piece := by
        intro piece member
        rcases List.mem_cons.mp member with first | later
        · exact first ▸ by decide
        · exact wholePieces inner piece later
      have pieces := splitOn_join whole (List.cons_ne_nil _ _)
      have first := head?_join (show hereName ≠ [] from nofun) (components.map Component.bytes)
      have written : (ofComponents (.here :: components)).bytes =
          join (hereName :: components.map Component.bytes) := bytes_ofComponents nofun
      rw [written, lead, pieces, first, if_neg (by decide), List.head?_cons, if_pos rfl,
        List.filterMap_cons, componentOf?_here, Component.filterMap_bytes inner]
      rfl
  | relative inner =>
      cases components with
      | nil => rfl
      | cons component components =>
          have own := inner component List.mem_cons_self
          have relative := Component.Inner.head?_ne_root inner
          have pieces := splitOn_join (wholePieces inner) (List.cons_ne_nil _ _)
          have first := head?_join own.bytes_ne_nil (components.map Component.bytes)
          rw [bytes_ofComponents relative, lead, pieces, Component.filterMap_bytes inner]
          rw [List.map_cons, first, if_neg (head?_ne_of_notMem own.whole), List.head?_cons,
            if_neg (fun here => own.bytes_ne_here (Option.some.inj here))]
          rfl

/-! ## The canonical path -/

theorem beq_iff (first second : Path) :
    (first == second) = true ↔ first.components = second.components := by
  change (first.components == second.components) = true ↔ _
  exact beq_iff_eq

theorem components_canonical (path : Path) : path.canonical.components = path.components :=
  components_ofComponents (isComponents_components path)

theorem canonical_canonical (path : Path) : path.canonical.canonical = path.canonical :=
  congrArg ofComponents path.components_canonical

theorem beq_canonical (path : Path) : (path == path.canonical) = true :=
  (beq_iff path path.canonical).mpr path.components_canonical.symm

/-- Equal paths are those with the same canonical bytes. -/
theorem canonical_eq_iff (first second : Path) :
    first.canonical = second.canonical ↔ (first == second) = true := by
  rw [beq_iff]
  constructor
  · intro same
    rw [← first.components_canonical, same, second.components_canonical]
  · exact fun same => congrArg ofComponents same

/-- Whether a piece of a path says something. -/
def IsTelling (piece : Bytes) : Prop := piece ≠ [] ∧ piece ≠ hereName

instance : DecidablePred IsTelling := fun _ => inferInstanceAs (Decidable (_ ∧ _))

/-- The pieces of a path that say something, in order. -/
def telling (bytes : Bytes) : List Bytes := (Bytes.splitOn Bytes.slash bytes).filter IsTelling

/-- The canonical form on bytes: one slash for all that a path begins with, or else the `.` that it
begins with, and then the pieces that say something, with one slash between neighbours. -/
def shortened (bytes : Bytes) : Bytes :=
  if bytes.head? = some Bytes.slash then Bytes.slash :: join (telling bytes)
  else if (Bytes.splitOn Bytes.slash bytes).head? = some hereName then
    join (hereName :: telling bytes)
  else join (telling bytes)

theorem map_bytes_filterMap (pieces : List Bytes) :
    (pieces.filterMap componentOf?).map Component.bytes = pieces.filter IsTelling := by
  induction pieces with
  | nil => rfl
  | cons piece pieces ih =>
      cases read : componentOf? piece with
      | none =>
          have silent : ¬ IsTelling piece := by
            rintro ⟨nonempty, named⟩
            unfold componentOf? at read
            rw [if_neg (not_or.mpr ⟨nonempty, named⟩)] at read
            split at read <;> cases read
          rw [List.filterMap_cons_none read, ih, List.filter_cons_of_neg (by simpa using silent)]
      | some component =>
          have telling : IsTelling piece := by
            constructor
            · rintro rfl
              cases read
            · rintro rfl
              cases read
          rw [List.filterMap_cons_some read, List.map_cons, ih,
            Component.bytes_of_componentOf? read,
            List.filter_cons_of_pos (by simpa using telling)]

theorem bytes_canonical (path : Path) : path.canonical.bytes = shortened path.bytes := by
  have inner := Component.inner_pieces path.bytes
  have told := map_bytes_filterMap (Bytes.splitOn Bytes.slash path.bytes)
  rw [canonical, components_eq, lead, shortened, telling, ← told]
  split
  · exact bytes_ofComponents_root _
  · split
    · exact bytes_ofComponents nofun
    · exact bytes_ofComponents (Component.Inner.head?_ne_root inner)

/-- Slashes and dots that say nothing. -/
example : (Path.canonical ⟨Text.bytes "//a/.//../b/./"⟩).bytes = Text.bytes "/a/../b" := rfl

end Path
end AstLink
