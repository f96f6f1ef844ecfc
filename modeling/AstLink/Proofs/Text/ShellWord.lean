import AstLink.Text.ShellWord

namespace AstLink
namespace Text
namespace ShellWord

/-!
What is written as a line of words reads back as those words.

The reader stands between two words with `done` words behind it.  Reading the written form of one
more word leads it to the end of that word, where it is neither inside a quotation nor after a
backslash, so a blank or the end of the line ends the word there.  That holds of a word written as
it is because none of its characters means anything to the reader, and of a quoted word because
inside single quotes only the single quote does.  The main statement is `split_join`.
-/

open Position

variable (done : List (List Char))

/-! ## Words written as they are -/

/-- The characters that the reader treats in a special way are among those that need quotes. -/
theorem step_of_plain {char : Char} (plain : special.contains char = false) (word : List Char) :
    step ⟨.plain, word, done⟩ char = ⟨.plain, char :: word, done⟩ ∧
      step ⟨.between, [], done⟩ char = ⟨.plain, [char], done⟩ := by
  simp only [special, List.contains_cons, List.contains_nil, Bool.or_eq_false_iff,
    beq_eq_false_iff_ne] at plain
  simp [step, plain, quoteMark, isSeparator, add]

theorem foldl_step_plain {chars : List Char}
    (plain : ∀ char ∈ chars, special.contains char = false) (word : List Char) :
    chars.foldl step ⟨.plain, word, done⟩ = ⟨.plain, chars.reverse ++ word, done⟩ := by
  induction chars generalizing word with
  | nil => rfl
  | cons char chars ih =>
      have first := (step_of_plain done (plain char List.mem_cons_self) word).1
      have others := ih (fun other member => plain other (List.mem_cons_of_mem char member))
      rw [List.foldl_cons, first, others, List.reverse_cons, List.append_assoc,
        List.singleton_append]

/-! ## Quoted words -/

/-- A character between single quotes is read as itself, and the quotation is open again after
it. -/
theorem foldl_step_quotedChar (char : Char) (word : List Char) :
    (quotedChar char).foldl step ⟨.single, word, done⟩ = ⟨.single, char :: word, done⟩ := by
  by_cases mark : char = quoteMark
  · subst mark
    rfl
  · simp [quotedChar, mark, step, add]

theorem foldl_step_quoted (chars word : List Char) :
    (chars.flatMap quotedChar).foldl step ⟨.single, word, done⟩ =
      ⟨.single, chars.reverse ++ word, done⟩ := by
  induction chars generalizing word with
  | nil => rfl
  | cons char chars ih =>
      rw [List.flatMap_cons, List.foldl_append, foldl_step_quotedChar, ih, List.reverse_cons,
        List.append_assoc, List.singleton_append]

/-! ## Lines -/

/-- The written form of a word leads from between two words to the end of that word. -/
theorem foldl_step_quote (word : List Char) :
    (quote word).foldl step ⟨.between, [], done⟩ = ⟨.plain, word.reverse, done⟩ := by
  unfold quote
  by_cases plain : isPlain word = true
  · rw [if_pos plain]
    simp only [isPlain, Bool.and_eq_true, List.all_eq_true, Bool.not_eq_true'] at plain
    cases word with
    | nil => cases plain.1
    | cons char chars =>
        have first := (step_of_plain done (plain.2 char List.mem_cons_self) []).2
        have others := foldl_step_plain done
          (fun other member => plain.2 other (List.mem_cons_of_mem char member)) [char]
        rw [List.foldl_cons, first, others, List.reverse_cons]
  · have opened : step ⟨.between, [], done⟩ quoteMark = ⟨.single, [], done⟩ := rfl
    have closed (word : List Char) :
        step ⟨.single, word, done⟩ quoteMark = ⟨.plain, word, done⟩ := rfl
    rw [if_neg plain, List.foldl_cons, opened, List.foldl_append, foldl_step_quoted,
      List.append_nil, List.foldl_cons, closed, List.foldl_nil]

theorem join_cons_cons (word next : List Char) (words : List (List Char)) :
    join (word :: next :: words) = quote word ++ ' ' :: join (next :: words) := by
  simp [join]

/-- A written line is read to its end, whatever was read before it. -/
theorem finish?_foldl_join (words : List (List Char)) :
    ((join words).foldl step ⟨.between, [], done⟩).finish? = some (done.reverse ++ words) := by
  induction words generalizing done with
  | nil => simp [join, finish?]
  | cons word rest ih =>
      cases rest with
      | nil =>
          have alone : join [word] = quote word := by simp [join]
          rw [alone, foldl_step_quote]
          simp [finish?, close]
      | cons next words =>
          have blank : step ⟨.plain, word.reverse, done⟩ ' ' = ⟨.between, [], word :: done⟩ := by
            simp [step, quoteMark, isSeparator, close]
          rw [join_cons_cons, List.foldl_append, foldl_step_quote, List.foldl_cons, blank, ih,
            List.reverse_cons, List.append_assoc, List.singleton_append]

/-- A written line reads back as its words. -/
theorem split_join (words : List (List Char)) : split (join words) = some words :=
  finish?_foldl_join [] words

end ShellWord
end Text
end AstLink
