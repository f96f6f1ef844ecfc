import AstLink.Stream.Line

namespace AstLink
namespace Stream

/-!
Cutting bytes into lines.

A reader cuts off one line at a time.  `cutLines` has all lines of some bytes at once, and the bytes
behind the last of them.  They are also found byte by byte from the left, with a line begun: the
lines that are `finished`, and the line that is `carried` on.
-/

/-- The complete lines at the beginning of some bytes, and the rest, which holds no newline. -/
def cutLines (bytes : Bytes) : List Bytes × Bytes :=
  bytes.foldr
    (fun byte (lines, rest) =>
      if byte = Bytes.newline then ([byte] :: lines, rest)
      else
        match lines with
        | [] => ([], byte :: rest)
        | line :: lines => ((byte :: line) :: lines, rest))
    ([], [])

theorem cutLines_newline (bytes : Bytes) :
    cutLines (Bytes.newline :: bytes) =
      ([Bytes.newline] :: (cutLines bytes).1, (cutLines bytes).2) := by
  simp [cutLines]

theorem cutLines_byte {byte : UInt8} (other : byte ≠ Bytes.newline) (bytes : Bytes) :
    cutLines (byte :: bytes) =
      match (cutLines bytes).1 with
      | [] => ([], byte :: (cutLines bytes).2)
      | line :: lines => ((byte :: line) :: lines, (cutLines bytes).2) := by
  exact if_neg other

/-- The first line is the one that a reader cuts off. -/
theorem cutLines_of_cutLine? {bytes line rest : Bytes} (cut : cutLine? bytes = some (line, rest)) :
    cutLines bytes = (line :: (cutLines rest).1, (cutLines rest).2) := by
  induction bytes generalizing line with
  | nil => cases cut
  | cons byte bytes ih =>
      unfold cutLine? at cut
      split at cut
      · next newline =>
          cases cut
          rw [newline, cutLines_newline]
      · next other =>
          rcases Option.map_eq_some_iff.mp cut with ⟨⟨inner, behind⟩, found, same⟩
          cases same
          rw [cutLines_byte other, ih found]

/-- Where it cuts off none, there is none. -/
theorem cutLines_of_uncut {bytes : Bytes} (uncut : cutLine? bytes = none) :
    cutLines bytes = ([], bytes) := by
  induction bytes with
  | nil => rfl
  | cons byte bytes ih =>
      unfold cutLine? at uncut
      split at uncut
      · cases uncut
      · next other => rw [cutLines_byte other, ih (Option.map_eq_none_iff.mp uncut)]

/-! ## From the left -/

/-- The lines that bytes complete after a line begun. -/
def finished (begun bytes : Bytes) : List Bytes :=
  match (cutLines bytes).1 with
  | [] => []
  | line :: lines => (begun ++ line) :: lines

/-- The line begun after them. -/
def carried (begun bytes : Bytes) : Bytes :=
  if (cutLines bytes).1 = [] then begun ++ (cutLines bytes).2 else (cutLines bytes).2

@[simp] theorem finished_nil (begun : Bytes) : finished begun [] = [] := rfl

@[simp] theorem carried_nil (begun : Bytes) : carried begun [] = begun := List.append_nil begun

theorem finished_newline (begun bytes : Bytes) :
    finished begun (Bytes.newline :: bytes) =
      (begun ++ [Bytes.newline]) :: finished [] bytes := by
  unfold finished
  rw [cutLines_newline]
  cases (cutLines bytes).1 with
  | nil => rfl
  | cons line lines => rfl

theorem carried_newline (begun bytes : Bytes) :
    carried begun (Bytes.newline :: bytes) = carried [] bytes := by
  simp [carried, cutLines_newline]

theorem finished_byte {byte : UInt8} (other : byte ≠ Bytes.newline) (begun bytes : Bytes) :
    finished begun (byte :: bytes) = finished (begun ++ [byte]) bytes := by
  unfold finished
  rw [cutLines_byte other]
  cases (cutLines bytes).1 with
  | nil => rfl
  | cons line lines => simp

theorem carried_byte {byte : UInt8} (other : byte ≠ Bytes.newline) (begun bytes : Bytes) :
    carried begun (byte :: bytes) = carried (begun ++ [byte]) bytes := by
  unfold carried
  rw [cutLines_byte other]
  cases (cutLines bytes).1 with
  | nil => simp
  | cons line lines => simp

/-- Each newline finishes a line. -/
theorem length_finished (begun bytes : Bytes) :
    (finished begun bytes).length = bytes.count Bytes.newline := by
  induction bytes generalizing begun with
  | nil => rfl
  | cons byte bytes ih =>
      by_cases newline : byte = Bytes.newline
      · rw [newline, finished_newline, List.length_cons, ih, List.count_cons_self]
      · rw [finished_byte newline, ih, List.count_cons_of_ne newline]

/-- No line is begun where there are no bytes, or where the last of them is a newline. -/
theorem carried_eq_nil_iff (begun bytes : Bytes) :
    carried begun bytes = [] ↔ begun ++ bytes = [] ∨ bytes.getLast? = some Bytes.newline := by
  induction bytes generalizing begun with
  | nil => simp
  | cons byte bytes ih =>
      by_cases newline : byte = Bytes.newline
      · rw [newline, carried_newline, ih]
        cases bytes with
        | nil => simp
        | cons next bytes => simp [List.getLast?_cons_cons]
      · rw [carried_byte newline, ih]
        cases bytes with
        | nil => simp [newline]
        | cons next bytes => simp [List.getLast?_cons_cons]

/-- What is finished and carried on byte by byte is so portion by portion, too. -/
theorem finished_append (begun first second : Bytes) :
    finished begun (first ++ second) =
      finished begun first ++ finished (carried begun first) second := by
  induction first generalizing begun with
  | nil => rw [List.nil_append, finished_nil, carried_nil, List.nil_append]
  | cons byte first ih =>
      rw [List.cons_append]
      by_cases newline : byte = Bytes.newline
      · rw [newline, finished_newline, finished_newline, carried_newline, ih, List.cons_append]
      · rw [finished_byte newline, finished_byte newline, carried_byte newline, ih]

/-- Reading drops no byte and adds none. -/
theorem flatten_finished (begun bytes : Bytes) :
    (finished begun bytes).flatten ++ carried begun bytes = begun ++ bytes := by
  induction bytes generalizing begun with
  | nil => simp
  | cons byte bytes ih =>
      by_cases newline : byte = Bytes.newline
      · rw [newline, finished_newline, carried_newline, List.flatten_cons, List.append_assoc, ih]
        simp
      · rw [finished_byte newline, carried_byte newline, ih, List.append_assoc]
        rfl

/-- Bytes with a newline at their end and none before it. -/
def IsLine (line : Bytes) : Prop :=
  ∃ text, Bytes.newline ∉ text ∧ line = text ++ [Bytes.newline]

theorem newline_notMem_append {begun : Bytes} {byte : UInt8} (unended : Bytes.newline ∉ begun)
    (other : byte ≠ Bytes.newline) : Bytes.newline ∉ begun ++ [byte] := by
  intro member
  rcases List.mem_append.mp member with before | last
  · exact unended before
  · exact other (List.mem_singleton.mp last).symm

/-- What is finished is a line. -/
theorem isLine_of_mem_finished {begun bytes line : Bytes} (unended : Bytes.newline ∉ begun)
    (member : line ∈ finished begun bytes) : IsLine line := by
  induction bytes generalizing begun with
  | nil => cases member
  | cons byte bytes ih =>
      by_cases newline : byte = Bytes.newline
      · rw [newline, finished_newline] at member
        rcases List.mem_cons.mp member with first | later
        · exact ⟨begun, unended, first⟩
        · exact ih List.not_mem_nil later
      · rw [finished_byte newline] at member
        exact ih (newline_notMem_append unended newline) member

/-- A line that is carried on has not come to its newline. -/
theorem newline_notMem_carried {begun : Bytes} (unended : Bytes.newline ∉ begun) (bytes : Bytes) :
    Bytes.newline ∉ carried begun bytes := by
  induction bytes generalizing begun with
  | nil => rwa [carried_nil]
  | cons byte bytes ih =>
      by_cases newline : byte = Bytes.newline
      · rw [newline, carried_newline]
        exact ih List.not_mem_nil
      · rw [carried_byte newline]
        exact ih (newline_notMem_append unended newline)

/-- A line holds its newline at least. -/
theorem ne_nil_of_mem_cutLines {bytes line : Bytes} (member : line ∈ (cutLines bytes).1) :
    line ≠ [] := by
  induction bytes generalizing line with
  | nil => cases member
  | cons byte bytes ih =>
      by_cases newline : byte = Bytes.newline
      · rw [newline, cutLines_newline] at member
        rcases List.mem_cons.mp member with first | later
        · simp [first]
        · exact ih later
      · rw [cutLines_byte newline] at member
        cases lines : (cutLines bytes).1 with
        | nil =>
            rw [lines] at member
            cases member
        | cons first others =>
            rw [lines] at member
            rcases List.mem_cons.mp member with extended | later
            · simp [extended]
            · exact ih (lines ▸ List.mem_cons_of_mem first later)

theorem ne_nil_of_mem_finished {begun bytes line : Bytes} (member : line ∈ finished begun bytes) :
    line ≠ [] := by
  induction bytes generalizing begun with
  | nil => cases member
  | cons byte bytes ih =>
      by_cases newline : byte = Bytes.newline
      · rw [newline, finished_newline] at member
        rcases List.mem_cons.mp member with first | later
        · simp [first]
        · exact ih later
      · rw [finished_byte newline] at member
        exact ih member

/-- Bytes that end where a line does, or that are none. -/
def EndsLine (bytes : Bytes) : Prop := bytes = [] ∨ bytes.getLast? = some Bytes.newline

/-- The complete lines are the longest beginning that ends where a line does. -/
theorem flatten_finished_longest (bytes : Bytes) :
    (finished [] bytes).flatten <+: bytes ∧ EndsLine (finished [] bytes).flatten ∧
      ∀ other, other <+: bytes -> EndsLine other -> other <+: (finished [] bytes).flatten := by
  refine ⟨⟨carried [] bytes, flatten_finished [] bytes⟩, ?_, ?_⟩
  · rcases List.eq_nil_or_concat (finished [] bytes) with none | ⟨lines, last, split⟩
    · rw [none]
      exact Or.inl rfl
    · have member : last ∈ finished [] bytes := by simp [split]
      rcases isLine_of_mem_finished List.not_mem_nil member with ⟨text, _, ended⟩
      right
      rw [split, ended, List.concat_eq_append, List.flatten_append, List.flatten_singleton,
        ← List.append_assoc]
      exact List.getLast?_concat
  · rintro other ⟨rest, split⟩ ends
    have complete : carried [] other = [] := (carried_eq_nil_iff [] other).mpr ends
    have whole := flatten_finished [] other
    rw [complete, List.append_nil, List.nil_append] at whole
    rw [← split, finished_append, List.flatten_append, whole]
    exact List.prefix_append other _

end Stream
end AstLink
