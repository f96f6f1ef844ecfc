import AstLink.Proofs.Invocation.Argv
import AstLink.Proofs.Text.ShellWord
import AstLink.Proofs.Text.Utf8

namespace AstLink

/-!
The shown command says what is run.

A shell reads it as the words of the command, each as it is shown to people.  Where all words are
text, nothing is lost in showing them, so the command itself can be read back, and two invocations
are shown alike only if they do the same.  The main statement is `display_faithful`.
-/

namespace Invocation

/-- All paths that reach the compiler are text. -/
def IsText (invocation : Invocation) : Prop :=
  ∀ path ∈ invocation.compiler :: invocation.target :: invocation.libraries,
    Text.Utf8.IsEncoding path.bytes

instance : DecidablePred IsText := fun _ => inferInstanceAs (Decidable (∀ _ ∈ _, _))

/-- The flags are text in any case. -/
theorem isEncoding_of_mem_argv {invocation : Invocation} (isText : invocation.IsText) :
    ∀ token ∈ invocation.argv, Text.Utf8.IsEncoding token := by
  have flag (text : String) : Text.Utf8.IsEncoding (Text.bytes text) := ⟨text.toList, rfl⟩
  have compiler := isText invocation.compiler List.mem_cons_self
  have target := isText invocation.target (List.mem_cons_of_mem _ List.mem_cons_self)
  intro token member
  simp only [argv, compilerArgs, List.mem_cons] at member
  rcases member with equal | equal | equal | equal | equal | member
  · exact equal ▸ compiler
  · exact equal ▸ flag _
  · exact equal ▸ flag _
  · exact equal ▸ flag _
  · exact equal ▸ target
  · rcases List.mem_flatMap.mp member with ⟨library, inside, place⟩
    rcases List.mem_cons.mp place with equal | last
    · exact equal ▸ flag _
    · have equal := List.mem_singleton.mp last
      exact equal ▸ isText library (List.mem_cons_of_mem _ (List.mem_cons_of_mem _ inside))

/-- The words of the shown command. -/
theorem split_display (invocation : Invocation) :
    Text.ShellWord.split invocation.display.toList =
      some (invocation.argv.map Text.Utf8.lossy) := by
  rw [display, String.toList_ofList]
  exact Text.ShellWord.split_join _

/-- Encoding the shown words gives back the command, if all of it is text. -/
theorem map_encode_lossy {tokens : List Bytes}
    (valid : ∀ token ∈ tokens, Text.Utf8.IsEncoding token) :
    (tokens.map Text.Utf8.lossy).map Text.Utf8.encode = tokens := by
  rw [List.map_map]
  have back := fun token member => Text.Utf8.encode_lossy (valid token member)
  exact (List.map_congr_left back).trans (List.map_id tokens)

end Invocation

/-- A shell reads the shown command as the words of the command, as many and in the same order, each
with its malformed pieces replaced.  If every word is text, it reads the command itself, so that two
invocations whose paths are text are shown alike just if they have the same compiler, the same
target and the same libraries. -/
theorem display_faithful (invocation : Invocation) :
    let words := Text.ShellWord.split invocation.display.toList
    words = some (invocation.argv.map Text.Utf8.lossy) ∧
      ((∀ token ∈ invocation.argv, Text.Utf8.IsEncoding token) ->
        words.map (List.map Text.Utf8.encode) = some invocation.argv) ∧
      ∀ other : Invocation, invocation.IsText -> other.IsText ->
        (invocation.display = other.display ↔
          invocation.compiler = other.compiler ∧ invocation.target = other.target ∧
            invocation.libraries = other.libraries) := by
  intro words
  have read : words = some (invocation.argv.map Text.Utf8.lossy) := invocation.split_display
  refine ⟨read, ?_, ?_⟩
  · intro valid
    rw [read, Option.map_some, Invocation.map_encode_lossy valid]
  · intro other isText otherIsText
    rw [← Invocation.argv_eq_iff]
    constructor
    · intro shown
      have same : invocation.argv.map Text.Utf8.lossy = other.argv.map Text.Utf8.lossy := by
        rw [← Option.some_inj, ← invocation.split_display, ← other.split_display, shown]
      rw [← Invocation.map_encode_lossy (Invocation.isEncoding_of_mem_argv isText), same,
        Invocation.map_encode_lossy (Invocation.isEncoding_of_mem_argv otherIsText)]
    · intro same
      rw [Invocation.display, Invocation.display, same]

/-- A compiler with a quote in its name, a target with a blank and a letter outside ASCII, and
libraries that are a comment mark and nothing at all. -/
theorem display_faithful_quoted :
    let invocation : Invocation := ⟨⟨Text.bytes "it's"⟩, ⟨Text.bytes "é a"⟩, ⟨[]⟩,
      [⟨Text.bytes "#"⟩, ⟨[]⟩]⟩
    let other : Invocation := { invocation with target := ⟨Text.bytes "é  a"⟩ }
    (Text.ShellWord.split invocation.display.toList).map (List.map Text.Utf8.encode) =
        some invocation.argv ∧
      (invocation.display = other.display ↔
        invocation.compiler = other.compiler ∧ invocation.target = other.target ∧
          invocation.libraries = other.libraries) := by
  intro invocation other
  have faithful := display_faithful invocation
  exact ⟨faithful.2.1 (by decide +kernel),
    faithful.2.2 other (by decide +kernel) (by decide +kernel)⟩

end AstLink
