import AstLink.Proofs.CommandLine.Leading

namespace AstLink
namespace CommandLine

/-!
The mark that ends the options, among the leading words.

Any word is a value behind it, so it is the way to name a compiler whose name begins with a dash,
and the tip on an option that is not known advises it.  But the mark is itself one of the leading
words, and there are as many of these as values are needed.  So a line that has the mark among them
is short of a value, however many words follow (`parse_escaped`).
-/

/-- Words are values on both sides of the mark, and after it those that begin with a dash, too. -/
theorem values_escaped {front back : List Bytes} (nonempty : [] ∉ front ++ back)
    (plain : ∀ word ∈ front, IsValue word) :
    values [] false (front ++ endMark :: back) = .ok (front ++ back) := by
  have cleanFront : [] ∉ front := fun member => nonempty (List.mem_append_left back member)
  have valuesFront : ∀ word ∈ front,
      (if false then Word.value else Word.ofBytes word) = .value :=
    fun word member => (Word.ofBytes_eq_value_iff word).mpr (plain word member).2
  have valuesBack : ∀ word ∈ back,
      (if true then Word.value else Word.ofBytes word) = .value := fun _ _ => rfl
  have toMark := values_append valuesFront [] (endMark :: back) List.not_mem_nil
  have toEnd := values_append valuesBack front []
    (fun member => cleanFront (List.dropLast_subset front member))
  rw [List.nil_append, ((nil_notMem_iff front).mp cleanFront).1] at toMark
  rw [List.append_nil, ((nil_notMem_iff _).mp nonempty).1] at toEnd
  calc
    values [] false (front ++ endMark :: back) = values front false (endMark :: back) := toMark
    _ = values front true back := rfl
    _ = values (front ++ back) true [] := toEnd
    _ = .ok (front ++ back) := by
      rw [values, checkLast_of_nonempty ((nil_notMem_iff _).mp nonempty).2]
      rfl

/-- Three values around the mark are read as such, but the line that has them is refused: its
leading words are counted with the mark, so the third value is left to the libraries. -/
theorem parse_escaped (program : Bytes) {front back : List Bytes}
    {compiler target placeholder : Bytes} (libraries : List Bytes)
    (split : front ++ back = [compiler, target, placeholder]) (escaped : back ≠ [])
    (nonempty : ∀ word ∈ [compiler, target, placeholder], word ≠ [])
    (plain : ∀ word ∈ front, IsValue word) :
    values [] false (front ++ endMark :: back) = .ok [compiler, target, placeholder] ∧
      parse (program :: (front ++ endMark :: back) ++ libraries) =
        .error (.missing [.placeholder]) := by
  have clean : [] ∉ front ++ back := by
    rw [split]
    exact fun member => nonempty [] member rfl
  have shorter : front ++ back.dropLast = [compiler, target] := by
    rw [← List.dropLast_append_of_ne_nil escaped, split]
    rfl
  have read : values [] false (front ++ endMark :: back.dropLast) = .ok [compiler, target] := by
    rw [← shorter]
    apply values_escaped _ plain
    rw [← List.dropLast_append_of_ne_nil escaped]
    exact fun member => clean (List.dropLast_subset _ member)
  have leading : ((program :: (front ++ endMark :: back) ++ libraries).drop 1).take leadingCount =
      front ++ endMark :: back.dropLast := by
    have count : (front ++ endMark :: back.dropLast).length = leadingCount := by
      have two := congrArg List.length shorter
      rw [List.length_append] at two
      rw [List.length_append, List.length_cons, ← Nat.add_assoc, two]
      rfl
    have parts : front ++ endMark :: back ++ libraries =
        (front ++ endMark :: back.dropLast) ++ (back.getLast escaped :: libraries) := by
      conv => lhs; rw [← List.dropLast_concat_getLast escaped]
      simp
    rw [List.cons_append, List.drop_one, List.tail_cons, parts, List.take_left' count]
  refine ⟨split ▸ values_escaped clean plain, ?_⟩
  rw [← leading] at read
  exact parse_of_few read (Nat.lt_succ_self 2)

/-- The reading agrees with the use of the mark that the tip on an unknown option advises, but the
line is short of a value. -/
theorem parse_escaped_compiler :
    values [] false (["--", "-cc", "merged.ast", "empty.c"].map Text.bytes) =
        .ok (["-cc", "merged.ast", "empty.c"].map Text.bytes) ∧
      parse (["ast-merge", "--", "-cc", "merged.ast", "empty.c"].map Text.bytes) =
        .error (.missing [.placeholder]) :=
  parse_escaped (Text.bytes "ast-merge") [] rfl (List.cons_ne_nil _ _) (by decide)
    (fun _ impossible => absurd impossible List.not_mem_nil)

/-- So a compiler whose name begins with a dash is not accepted behind the mark, either. -/
theorem not_accepts_escaped_compiler :
    ¬ ∃ line, parse (["ast-merge", "--", "-cc", "merged.ast", "empty.c"].map Text.bytes) =
      .ok line := by
  rintro ⟨line, accepted⟩
  cases accepted

end CommandLine
end AstLink
