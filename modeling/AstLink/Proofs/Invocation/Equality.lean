import AstLink.Proofs.Invocation.Argv
import AstLink.Proofs.Path.Canonical

namespace AstLink

/-!
When invocations are equal.

Equality is derived: it goes field by field, and within the libraries place by place.  Since paths
are equal just if their canonical forms are, so are invocations, if every path in them is put into
its canonical form (`canonical_eq_iff`).  Hence equality of invocations is an equivalence, and it is
kept by everything that does not look into a path, such as writing the command.  The main statement
is `equality_by_components`.
-/

namespace Path

/-- Lists of paths that are equal place by place. -/
structure Alike (first second : List Path) : Prop where
  length : first.length = second.length
  paths : ∀ (place : Nat) (path other : Path), first[place]? = some path ->
    second[place]? = some other -> (path == other) = true

theorem map_canonical_eq_iff_alike (first second : List Path) :
    first.map canonical = second.map canonical ↔ Alike first second := by
  constructor
  · intro same
    refine ⟨by simpa using congrArg List.length same, ?_⟩
    intro place path other here there
    have canonicals := congrArg (·[place]?) same
    simp only [List.getElem?_map, here, there, Option.map_some, Option.some.injEq] at canonicals
    exact (canonical_eq_iff path other).mp canonicals
  · intro alike
    refine List.ext_getElem? fun place => ?_
    rw [List.getElem?_map, List.getElem?_map]
    cases here : first[place]? with
    | none =>
        have beyond := List.getElem?_eq_none_iff.mp here
        rw [List.getElem?_eq_none_iff.mpr (alike.length ▸ beyond)]
    | some path =>
        have below := (List.getElem?_eq_some_iff.mp here).1
        have there := List.getElem?_eq_getElem (alike.length ▸ below)
        have equal := alike.paths place path _ here there
        rw [there, Option.map_some, Option.map_some, (canonical_eq_iff path _).mpr equal]

theorem map_canonical_eq_iff_beq (first second : List Path) :
    first.map canonical = second.map canonical ↔ (first == second) = true := by
  induction first generalizing second with
  | nil => cases second with
      | nil => simp
      | cons other second => simp
  | cons path first ih =>
      cases second with
      | nil => simp
      | cons other second =>
          rw [List.map_cons, List.map_cons, List.cons.injEq, canonical_eq_iff, ih,
            List.cons_beq_cons, Bool.and_eq_true]

end Path

namespace Invocation

/-- The invocation with every path in its canonical form. -/
def canonical (invocation : Invocation) : Invocation where
  compiler := invocation.compiler.canonical
  target := invocation.target.canonical
  placeholder := invocation.placeholder.canonical
  libraries := invocation.libraries.map Path.canonical

theorem beq_iff (first second : Invocation) :
    (first == second) = true ↔
      (first.compiler == second.compiler) = true ∧ (first.target == second.target) = true ∧
        (first.placeholder == second.placeholder) = true ∧
        (first.libraries == second.libraries) = true := by
  change (first.compiler == second.compiler && (first.target == second.target &&
    (first.placeholder == second.placeholder && first.libraries == second.libraries))) = true ↔ _
  simp only [Bool.and_eq_true]

theorem canonical_eq_iff (first second : Invocation) :
    first.canonical = second.canonical ↔ (first == second) = true := by
  rw [beq_iff, canonical, canonical, Invocation.mk.injEq, Path.canonical_eq_iff,
    Path.canonical_eq_iff, Path.canonical_eq_iff, Path.map_canonical_eq_iff_beq]

/-- The tokens of a command, as paths. -/
def argvPaths (invocation : Invocation) : List Path := invocation.argv.map Path.mk

/-- As paths, the arguments that load libraries depend on the canonical libraries alone. -/
theorem map_canonical_libraryArgs (libraries : List Path) :
    ((libraryArgs (libraries.map Path.canonical)).map Path.mk).map Path.canonical =
      ((libraryArgs libraries).map Path.mk).map Path.canonical := by
  induction libraries with
  | nil => rfl
  | cons library libraries ih =>
      simp only [List.map_cons, libraryArgs_cons, ih]
      exact congrArg (fun path => Path.canonical ⟨mergeFlag⟩ :: path :: _)
        library.canonical_canonical

/-- So do the tokens of the whole command. -/
theorem map_canonical_argvPaths (invocation : Invocation) :
    invocation.canonical.argvPaths.map Path.canonical =
      invocation.argvPaths.map Path.canonical := by
  have unfolded (invocation : Invocation) : invocation.argvPaths.map Path.canonical =
      invocation.compiler.canonical :: Path.canonical ⟨frontEndFlag⟩ ::
        Path.canonical ⟨headerFlag⟩ :: Path.canonical ⟨outputFlag⟩ ::
        invocation.target.canonical ::
        ((libraryArgs invocation.libraries).map Path.mk).map Path.canonical := rfl
  rw [unfolded, unfolded]
  unfold canonical
  rw [map_canonical_libraryArgs, Path.canonical_canonical, Path.canonical_canonical]

end Invocation

/-- Equality of invocations is equality of the paths in them, place by place, and paths are equal
just if they have the same canonical bytes.

The canonical form of a path is read off its bytes (`Path.shortened`); it is equal to the path and
canonical itself.  Equality of invocations is an equivalence.  The commands of equal invocations
agree, token by token, as paths.  Invocations whose commands are the same bytes are equal if their
placeholders are. -/
theorem equality_by_components (first second : Invocation) (path other : Path) :
    (path.canonical.bytes = Path.shortened path.bytes ∧
        path.canonical.canonical = path.canonical ∧ (path == path.canonical) = true ∧
        ((path == other) = true ↔ path.canonical.bytes = other.canonical.bytes)) ∧
      ((first == second) = true ↔
        (first.compiler == second.compiler) = true ∧ (first.target == second.target) = true ∧
          (first.placeholder == second.placeholder) = true ∧
          Path.Alike first.libraries second.libraries) ∧
      Equivalence (fun first second : Invocation => (first == second) = true) ∧
      ((first == second) = true -> Path.Alike first.argvPaths second.argvPaths) ∧
      (first.argv = second.argv -> (first.placeholder == second.placeholder) = true ->
        (first == second) = true) := by
  have byCanonical (first second : Invocation) := Invocation.canonical_eq_iff first second
  refine ⟨⟨path.bytes_canonical, path.canonical_canonical, path.beq_canonical, ?_⟩, ?_, ?_, ?_, ?_⟩
  · rw [← Path.canonical_eq_iff]
    exact Path.mk.injEq _ _ ▸ Iff.rfl
  · rw [Invocation.beq_iff, ← Path.map_canonical_eq_iff_beq, Path.map_canonical_eq_iff_alike]
  · constructor
    · exact fun invocation => (byCanonical invocation invocation).mp rfl
    · exact fun {first second} equal =>
        (byCanonical second first).mp ((byCanonical first second).mpr equal).symm
    · exact fun {first second third} here there => (byCanonical first third).mp
        (((byCanonical first second).mpr here).trans ((byCanonical second third).mpr there))
  · intro equal
    have same := (byCanonical first second).mpr equal
    rw [← Path.map_canonical_eq_iff_alike, ← first.map_canonical_argvPaths, same,
      second.map_canonical_argvPaths]
  · intro same placeholder
    rcases (Invocation.argv_eq_iff first second).mp same with ⟨compiler, target, libraries⟩
    rw [← byCanonical, Invocation.canonical, Invocation.canonical, compiler, target, libraries,
      (Path.canonical_eq_iff _ _).mpr placeholder]

/-- The same merge with slashes and dots that say nothing.  Its command is another, but not as
paths. -/
theorem equality_by_components_slashes :
    let first : Invocation := ⟨⟨Text.bytes "/usr/bin/cc"⟩, ⟨Text.bytes "out/merged.ast"⟩,
      ⟨Text.bytes "../a.c"⟩, [⟨Text.bytes "./x.ast"⟩, ⟨Text.bytes "y.ast"⟩]⟩
    let second : Invocation := ⟨⟨Text.bytes "//usr/./bin/cc"⟩, ⟨Text.bytes "out//merged.ast/"⟩,
      ⟨Text.bytes "../a.c/."⟩, [⟨Text.bytes "./x.ast"⟩, ⟨Text.bytes "y.ast/"⟩]⟩
    let third : Invocation := { first with placeholder := second.placeholder }
    first.argv ≠ second.argv ∧ Path.Alike first.argvPaths second.argvPaths ∧
      (first == third) = true := by
  intro first second third
  have equal : (first == second) = true := by decide +kernel
  refine ⟨by decide +kernel, ?_, ?_⟩
  · exact (equality_by_components first second first.compiler first.target).2.2.2.1 equal
  · exact (equality_by_components first third first.compiler first.target).2.2.2.2 rfl
      (by decide +kernel)

end AstLink
