import AstLink.Invocation

namespace AstLink
namespace Invocation

/-!
The compiler's command as an encoding of what it does.

Each library stands behind a flag of its own, so a command can be taken apart again whatever its
libraries are called.  It determines the compiler, the target and the libraries, and it says nothing
about the placeholder.  The lists of tokens that are commands are known by the flags in their places
(`exists_argv_iff`).  The main statement is `argv_decodable`.
-/

theorem libraryArgs_cons (library : Path) (libraries : List Path) :
    libraryArgs (library :: libraries) =
      mergeFlag :: library.bytes :: libraryArgs libraries := rfl

theorem librariesOfArgs?_libraryArgs (libraries : List Path) :
    librariesOfArgs? (libraryArgs libraries) = some libraries := by
  induction libraries with
  | nil => rfl
  | cons library libraries ih =>
      rw [libraryArgs_cons, librariesOfArgs?, if_pos rfl, ih]
      rfl

/-- A command is read back as the invocation that it carries out, but for the placeholder. -/
theorem ofArgv?_argv (invocation : Invocation) (placeholder : Path) :
    ofArgv? placeholder invocation.argv = some { invocation with placeholder } := by
  rw [argv, compilerArgs, ofArgv?, if_pos ⟨rfl, rfl, rfl⟩, librariesOfArgs?_libraryArgs]
  rfl

/-- Two invocations have the same command just if all that reaches the compiler is the same. -/
theorem argv_eq_iff (first second : Invocation) :
    first.argv = second.argv ↔
      first.compiler = second.compiler ∧ first.target = second.target ∧
        first.libraries = second.libraries := by
  constructor
  · intro same
    have read := first.ofArgv?_argv first.placeholder
    rw [same, second.ofArgv?_argv, Option.some_inj] at read
    have parts := Invocation.mk.inj read.symm
    exact ⟨parts.1, parts.2.1, parts.2.2.2⟩
  · rintro ⟨compiler, target, libraries⟩
    rw [argv, argv, compilerArgs, compilerArgs, compiler, target, libraries]

/-! ## Places -/

/-- A library stands behind as many pairs as there are libraries before it, and behind its flag. -/
theorem getElem?_libraryArgs (libraries : List Path) (place : Nat) :
    (libraryArgs libraries)[2 * place + 1]? = (libraries[place]?).map Path.bytes := by
  induction libraries generalizing place with
  | nil => rfl
  | cons library libraries ih =>
      cases place with
      | zero => rfl
      | succ place => exact ih place

theorem libraryArgs_set (libraries : List Path) (place : Nat) (library : Path) :
    libraryArgs (libraries.set place library) =
      (libraryArgs libraries).set (2 * place + 1) library.bytes := by
  induction libraries generalizing place with
  | nil => rfl
  | cons first libraries ih =>
      cases place with
      | zero => rfl
      | succ place => exact congrArg (fun rest => mergeFlag :: first.bytes :: rest) (ih place)

/-! ## Which lists of tokens are commands -/

@[simp] theorem length_libraryArgs (libraries : List Path) :
    (libraryArgs libraries).length = 2 * libraries.length := by
  induction libraries with
  | nil => rfl
  | cons library libraries ih =>
      rw [libraryArgs_cons, List.length_cons, List.length_cons, ih, List.length_cons]
      omega

/-- Arguments are read as libraries just if they are what these libraries are written as. -/
theorem librariesOfArgs?_eq_some_iff (args : List Bytes) (libraries : List Path) :
    librariesOfArgs? args = some libraries ↔ libraryArgs libraries = args := by
  constructor
  · intro read
    induction args using librariesOfArgs?.induct generalizing libraries with
    | case1 =>
        cases read
        rfl
    | case2 library rest ih =>
        rw [librariesOfArgs?, if_pos rfl, Option.map_eq_some_iff] at read
        rcases read with ⟨others, later, equal⟩
        rw [← equal, ← ih others later]
        rfl
    | case3 flag library rest other =>
        rw [librariesOfArgs?, if_neg other] at read
        cases read
    | case4 token => cases read
  · intro written
    rw [← written, librariesOfArgs?_libraryArgs]

/-- Arguments that load libraries have a flag at every even place and a path behind each. -/
theorem exists_libraryArgs_iff (args : List Bytes) :
    (∃ libraries, libraryArgs libraries = args) ↔
      args.length % 2 = 0 ∧
        ∀ place < args.length, place % 2 = 0 -> args[place]? = some mergeFlag := by
  induction args using librariesOfArgs?.induct with
  | case1 => exact ⟨fun _ => ⟨rfl, fun place below => nomatch below⟩, fun _ => ⟨[], rfl⟩⟩
  | case2 library rest ih =>
      constructor
      · rintro ⟨libraries, written⟩
        cases libraries with
        | nil => cases written
        | cons first others =>
            have later := ih.mp ⟨others, (List.cons.inj (List.cons.inj written).2).2⟩
            refine ⟨by simp only [List.length_cons]; omega, fun place below even => ?_⟩
            match place with
            | 0 => rfl
            | place + 2 =>
                simp only [List.length_cons] at below
                exact later.2 place (by omega) (by omega)
      · rintro ⟨even, flags⟩
        simp only [List.length_cons] at even
        have later := fun place (below : place < rest.length) (evenPlace : place % 2 = 0) =>
          flags (place + 2) (by simp only [List.length_cons]; omega) (by omega)
        rcases ih.mpr ⟨by omega, later⟩ with ⟨libraries, written⟩
        exact ⟨⟨library⟩ :: libraries, congrArg (fun rest => mergeFlag :: library :: rest) written⟩
  | case3 flag library rest other =>
      constructor
      · rintro ⟨libraries, written⟩
        cases libraries with
        | nil => cases written
        | cons first others => exact absurd (List.cons.inj written).1.symm other
      · rintro ⟨_, flags⟩
        have first := flags 0 (Nat.zero_lt_succ _) rfl
        exact absurd (Option.some.inj first) other
  | case4 token =>
      constructor
      · rintro ⟨libraries, written⟩
        have length := congrArg List.length written
        rw [length_libraryArgs, List.length_singleton] at length
        omega
      · rintro ⟨even, _⟩
        cases even

/-- The form of a command.  Only the flags are looked at, each at its place.  The tokens between
them are paths, and a path may be empty or look like a flag. -/
structure IsArgv (tokens : List Bytes) : Prop where
  odd : tokens.length % 2 = 1
  enough : 5 ≤ tokens.length
  frontEnd : tokens[1]? = some frontEndFlag
  header : tokens[2]? = some headerFlag
  output : tokens[3]? = some outputFlag
  merge : ∀ place < tokens.length, 5 ≤ place -> place % 2 = 1 -> tokens[place]? = some mergeFlag

/-- Such lists are the commands of invocations, and there are no others. -/
theorem exists_argv_iff (tokens : List Bytes) :
    (∃ invocation : Invocation, invocation.argv = tokens) ↔ IsArgv tokens := by
  constructor
  · rintro ⟨invocation, rfl⟩
    have flags := (exists_libraryArgs_iff (libraryArgs invocation.libraries)).mp ⟨_, rfl⟩
    refine ⟨?_, ?_, rfl, rfl, rfl, fun place below beyond odd => ?_⟩
    · simp only [argv, compilerArgs, List.length_cons]
      omega
    · simp only [argv, compilerArgs, List.length_cons]
      omega
    · match place with
      | place + 5 =>
          simp only [argv, compilerArgs, List.length_cons] at below
          exact flags.2 place (by omega) (by omega)
  · intro isArgv
    match tokens, isArgv with
    | compiler :: frontEnd :: header :: output :: target :: rest, isArgv =>
        have odd := isArgv.odd
        simp only [List.length_cons] at odd
        have flags := fun place (below : place < rest.length) (even : place % 2 = 0) =>
          isArgv.merge (place + 5) (by simp only [List.length_cons]; omega) (by omega) (by omega)
        rcases (exists_libraryArgs_iff rest).mpr ⟨by omega, flags⟩ with ⟨libraries, written⟩
        refine ⟨⟨⟨compiler⟩, ⟨target⟩, ⟨[]⟩, libraries⟩, ?_⟩
        rw [argv, compilerArgs, written, ← Option.some.inj isArgv.frontEnd,
          ← Option.some.inj isArgv.header, ← Option.some.inj isArgv.output]
    | [], isArgv | [_], isArgv | [_, _], isArgv | [_, _, _], isArgv | [_, _, _, _], isArgv =>
        exact absurd isArgv.enough (by simp)

/-- A list is read as an invocation just if it is the command of that. -/
theorem ofArgv?_eq_some_iff (placeholder : Path) (tokens : List Bytes) (invocation : Invocation) :
    ofArgv? placeholder tokens = some invocation ↔
      invocation.argv = tokens ∧ invocation.placeholder = placeholder := by
  constructor
  · intro read
    unfold ofArgv? at read
    split at read
    · split at read
      · rename_i compiler frontEnd header output target rest flags
        rcases Option.map_eq_some_iff.mp read with ⟨libraries, args, equal⟩
        rw [librariesOfArgs?_eq_some_iff] at args
        rw [← equal, flags.1, flags.2.1, flags.2.2, argv, compilerArgs, args]
        exact ⟨rfl, rfl⟩
      · cases read
    · cases read
  · rintro ⟨rfl, rfl⟩
    exact invocation.ofArgv?_argv invocation.placeholder

end Invocation

/-- Commands are an encoding of what is to be done, and `ofArgv?` is its decoder.

A command has five words and two more for each library.  The compiler, the target and the libraries
are read back from it byte for byte, whatever they look like.  The lists of tokens that are commands
are those with the flags in their places; exactly these can be decoded, and what they decode to is
written as the same list again.  So two invocations have the same command just if they have the same
compiler, the same target and the same libraries, and their placeholders do not matter. -/
theorem argv_decodable (invocation other : Invocation) (placeholder : Path)
    (tokens : List Bytes) :
    invocation.argv.length = 5 + 2 * invocation.libraries.length ∧
      Invocation.ofArgv? placeholder invocation.argv = some { invocation with placeholder } ∧
      ((∃ encoded : Invocation, encoded.argv = tokens) ↔ Invocation.IsArgv tokens) ∧
      ((∃ decoded, Invocation.ofArgv? placeholder tokens = some decoded) ↔
        Invocation.IsArgv tokens) ∧
      (∀ decoded, Invocation.ofArgv? placeholder tokens = some decoded ↔
        decoded.argv = tokens ∧ decoded.placeholder = placeholder) ∧
      (invocation.argv = other.argv ↔
        invocation.compiler = other.compiler ∧ invocation.target = other.target ∧
          invocation.libraries = other.libraries) := by
  have decoded_iff := Invocation.ofArgv?_eq_some_iff placeholder tokens
  have decodes : (∃ decoded, Invocation.ofArgv? placeholder tokens = some decoded) ↔
      ∃ encoded : Invocation, encoded.argv = tokens := by
    constructor
    · rintro ⟨decoded, read⟩
      exact ⟨decoded, ((decoded_iff decoded).mp read).1⟩
    · rintro ⟨encoded, written⟩
      exact ⟨{ encoded with placeholder }, (decoded_iff _).mpr ⟨written, rfl⟩⟩
  refine ⟨?_, invocation.ofArgv?_argv placeholder, Invocation.exists_argv_iff tokens,
    decodes.trans (Invocation.exists_argv_iff tokens), decoded_iff,
    Invocation.argv_eq_iff invocation other⟩
  rw [Invocation.argv, Invocation.compilerArgs]
  simp only [List.length_cons, Invocation.length_libraryArgs]
  omega

/-- Paths that are empty or look like flags are told from flags by their places. -/
example :
    let invocation : Invocation := ⟨⟨Invocation.outputFlag⟩, ⟨[]⟩, ⟨[]⟩,
      [⟨Invocation.mergeFlag⟩, ⟨Invocation.frontEndFlag⟩, ⟨[]⟩]⟩
    Invocation.ofArgv? ⟨[]⟩ invocation.argv = some invocation := rfl

end AstLink
