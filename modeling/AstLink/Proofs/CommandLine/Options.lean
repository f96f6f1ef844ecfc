import AstLink.Proofs.CommandLine.Acceptance
import AstLink.Proofs.Text.Utf8

namespace AstLink

/-!
What a word among the leading ones is, told by its spelling.

A word that begins with a dash, and is not the dash alone, is read as an option.  It asks for an
option by the long name or by the letter, it attaches a value to a long name, or it is the mark that
ends the options; any other such word is unknown.  The reader finds this out by cutting at the first
`=` and by decoding the first character; the statements here say it without either.
-/

/-! ## Spelling -/

theorem Text.bytes_append (first second : String) :
    Text.bytes (first ++ second) = Text.bytes first ++ Text.bytes second := by
  rw [Text.bytes, String.toList_append, Utf8.encode_append]
  rfl

namespace Bytes

theorem cut?_cons (separator byte : UInt8) (bytes : Bytes) :
    cut? separator (byte :: bytes) =
      if byte = separator then some ([], bytes)
      else (cut? separator bytes).map (fun (front, back) => (byte :: front, back)) := by
  by_cases same : byte = separator
  · simp [cut?, same]
  · simp only [cut?, same, if_false]
    rw [List.dropWhile_cons_of_pos (by simpa using same),
      List.takeWhile_cons_of_pos (by simpa using same)]
    cases bytes.dropWhile (fun byte => byte != separator) with
    | nil => rfl
    | cons first rest => rfl

/-- A separator that the front does not hold is the first. -/
theorem cut?_append {separator : UInt8} {front : Bytes} (absent : separator ∉ front)
    (back : Bytes) : cut? separator (front ++ separator :: back) = some (front, back) := by
  induction front with
  | nil => rw [List.nil_append, cut?_cons, if_pos rfl]
  | cons byte front ih =>
      have other : byte ≠ separator := fun same => absent (same ▸ List.mem_cons_self)
      have later := ih (fun member => absent (List.mem_cons_of_mem _ member))
      rw [List.cons_append, cut?_cons, if_neg other, later]
      rfl

theorem cut?_eq_none {separator : UInt8} {bytes : Bytes} (absent : separator ∉ bytes) :
    cut? separator bytes = none := by
  induction bytes with
  | nil => rfl
  | cons byte bytes ih =>
      have other : byte ≠ separator := fun same => absent (same ▸ List.mem_cons_self)
      have later := ih (fun member => absent (List.mem_cons_of_mem _ member))
      rw [cut?_cons, if_neg other, later]
      rfl

theorem eq_append_of_cut? {separator : UInt8} {bytes front back : Bytes}
    (found : cut? separator bytes = some (front, back)) :
    bytes = front ++ separator :: back := by
  induction bytes generalizing front with
  | nil => cases found
  | cons byte bytes ih =>
      rw [cut?_cons] at found
      by_cases same : byte = separator
      · rw [if_pos same] at found
        cases found
        rw [same, List.nil_append]
      · rw [if_neg same] at found
        rcases Option.map_eq_some_iff.mp found with ⟨⟨earlier, later⟩, cut, equal⟩
        cases equal
        rw [ih cut, List.cons_append]

end Bytes

namespace CommandLine

/-- The word that ends the options. -/
def endMark : Bytes := Text.bytes "--"

namespace Flag

/-- A word asks for an option by its long name, or by its letter, whatever comes after that. -/
def IsAsked (flag : Flag) (word : Bytes) : Prop :=
  word = Text.bytes ("--" ++ flag.name) ∨ Text.bytes (String.ofList ['-', flag.letter]) <+: word

/-- A word attaches a value, which may be empty, to the long name of an option. -/
def HasValue (flag : Flag) (value word : Bytes) : Prop :=
  word = Text.bytes ("--" ++ flag.name ++ "=") ++ value

theorem ofName?_eq_some_iff (name : Bytes) (flag : Flag) :
    ofName? name = some flag ↔ name = Text.bytes flag.name := by
  constructor
  · intro found
    unfold ofName? at found
    have matched := List.find?_some found
    exact (beq_iff_eq.mp matched).symm
  · rintro rfl
    cases flag with
    | help => rfl
    | version => rfl

theorem ofLetter?_eq_some_iff (letter : Char) (flag : Flag) :
    ofLetter? letter = some flag ↔ letter = flag.letter := by
  constructor
  · intro found
    unfold ofLetter? at found
    have matched := List.find?_some found
    exact (beq_iff_eq.mp matched).symm
  · rintro rfl
    cases flag with
    | help => rfl
    | version => rfl

/-- No long name holds the sign that attaches a value. -/
theorem equals_notMem_name (flag : Flag) : Bytes.equals ∉ Text.bytes flag.name := by
  cases flag with
  | help => decide
  | version => decide

/-- A letter is spelled with one byte, and that is no dash. -/
theorem exists_letter_byte (flag : Flag) :
    ∃ byte, String.utf8EncodeChar flag.letter = [byte] ∧ byte ≠ Bytes.dash := by
  cases flag with
  | help => exact ⟨0x68, by decide, by decide⟩
  | version => exact ⟨0x56, by decide, by decide⟩

theorem name_ne_nil (flag : Flag) : Text.bytes flag.name ≠ [] := by
  cases flag with
  | help => decide
  | version => decide

end Flag

namespace Word

/-! ## Two dashes -/

theorem ofLong_eq_flag_iff (body : Bytes) (flag : Flag) :
    ofLong body = .flag flag ↔ body = Text.bytes flag.name := by
  unfold ofLong
  constructor
  · intro read
    cases cut : Bytes.cut? Bytes.equals body with
    | none =>
        simp only [cut] at read
        cases named : Flag.ofName? body with
        | none => rw [named] at read; cases read
        | some known =>
            rw [named] at read
            cases read
            exact (Flag.ofName?_eq_some_iff body flag).mp named
    | some parts =>
        simp only [cut] at read
        cases named : Flag.ofName? parts.1 with
        | none => rw [named] at read; cases read
        | some known => rw [named] at read; cases read
  · intro spelled
    have whole := Bytes.cut?_eq_none flag.equals_notMem_name
    rw [spelled]
    simp only [whole, (Flag.ofName?_eq_some_iff _ flag).mpr rfl]

theorem ofLong_eq_flagValue_iff (body : Bytes) (flag : Flag) (value : Bytes) :
    ofLong body = .flagValue flag value ↔
      body = Text.bytes flag.name ++ Bytes.equals :: value := by
  unfold ofLong
  constructor
  · intro read
    cases cut : Bytes.cut? Bytes.equals body with
    | none =>
        simp only [cut] at read
        cases named : Flag.ofName? body with
        | none => rw [named] at read; cases read
        | some known => rw [named] at read; cases read
    | some parts =>
        simp only [cut] at read
        cases named : Flag.ofName? parts.1 with
        | none => rw [named] at read; cases read
        | some known =>
            rw [named] at read
            cases read
            rw [← (Flag.ofName?_eq_some_iff parts.1 flag).mp named]
            exact Bytes.eq_append_of_cut? cut
  · intro spelled
    have cut := Bytes.cut?_append flag.equals_notMem_name value
    rw [spelled]
    simp only [cut, (Flag.ofName?_eq_some_iff _ flag).mpr rfl]

/-- A long option is one that is known, with or without a value, or it is unknown. -/
theorem ofLong_cases (body : Bytes) :
    (∃ flag, ofLong body = .flag flag) ∨ (∃ flag value, ofLong body = .flagValue flag value) ∨
      ∃ text similar, ofLong body = .unknown text similar := by
  unfold ofLong
  split
  split
  · exact Or.inl ⟨_, rfl⟩
  · exact Or.inr (Or.inl ⟨_, _, rfl⟩)
  · exact Or.inr (Or.inr ⟨_, _, rfl⟩)

/-! ## One dash -/

theorem ofShort_eq_flag_iff (body : Bytes) (flag : Flag) :
    ofShort body = .flag flag ↔ String.utf8EncodeChar flag.letter <+: body := by
  rw [← Text.Utf8.head?_units_eq_some_iff]
  unfold ofShort
  cases Text.Utf8.units body with
  | nil => exact ⟨(fun read => nomatch read), (fun first => nomatch first)⟩
  | cons unit units =>
      cases unit with
      | none => exact ⟨(fun read => nomatch read), (fun first => nomatch first)⟩
      | some letter =>
          simp only [List.head?_cons, Option.some.injEq]
          rw [← Flag.ofLetter?_eq_some_iff]
          cases Flag.ofLetter? letter with
          | none => exact ⟨(fun read => nomatch read), (fun known => nomatch known)⟩
          | some known => simp only [Word.flag.injEq, Option.some.injEq]

/-- A short option is one that is known, or it is unknown. -/
theorem ofShort_cases (body : Bytes) :
    (∃ flag, ofShort body = .flag flag) ∨ ∃ text similar, ofShort body = .unknown text similar := by
  unfold ofShort
  split
  · split
    · exact Or.inl ⟨_, rfl⟩
    · exact Or.inr ⟨_, _, rfl⟩
  · exact Or.inr ⟨_, _, rfl⟩

/-! ## Any word -/

theorem ofBytes_dashes {body : Bytes} (nonempty : body ≠ []) :
    ofBytes (Bytes.dash :: Bytes.dash :: body) = ofLong body := by
  simp [ofBytes, nonempty]

theorem ofBytes_dash {second : UInt8} (other : second ≠ Bytes.dash) (rest : Bytes) :
    ofBytes (Bytes.dash :: second :: rest) = ofShort (second :: rest) := by
  simp [ofBytes, other]

/-- A word that is no value begins with one dash or with two. -/
theorem dash_cases {word : Bytes} (notValue : ofBytes word ≠ .value) :
    word = endMark ∨ (∃ body, body ≠ [] ∧ word = Bytes.dash :: Bytes.dash :: body) ∨
      ∃ second rest, second ≠ Bytes.dash ∧ word = Bytes.dash :: second :: rest := by
  match word with
  | [] => exact absurd rfl notValue
  | [first] => exact absurd rfl notValue
  | first :: second :: rest =>
      have dash : first = Bytes.dash := by
        by_cases dash : first = Bytes.dash
        · exact dash
        · exact absurd (by simp [ofBytes, dash]) notValue
      subst dash
      by_cases long : second = Bytes.dash
      · subst long
        by_cases empty : rest = []
        · rw [empty]
          exact Or.inl rfl
        · exact Or.inr (Or.inl ⟨rest, empty, rfl⟩)
      · exact Or.inr (Or.inr ⟨second, rest, long, rfl⟩)

theorem ofBytes_endMark : ofBytes endMark = .endOfOptions := rfl

/-- What a word is, if it is an option. -/
theorem option_cases {word : Bytes} (notValue : ofBytes word ≠ .value) (notEnd : word ≠ endMark) :
    (∃ flag, ofBytes word = .flag flag) ∨ (∃ flag value, ofBytes word = .flagValue flag value) ∨
      ∃ text similar, ofBytes word = .unknown text similar := by
  rcases dash_cases notValue with ends | ⟨body, nonempty, long⟩ | ⟨second, rest, other, short⟩
  · exact absurd ends notEnd
  · rw [long, ofBytes_dashes nonempty]
    exact ofLong_cases body
  · rw [short, ofBytes_dash other]
    rcases ofShort_cases (second :: rest) with known | unknown
    · exact Or.inl known
    · exact Or.inr (Or.inr unknown)

/-- A word is read as an option exactly if it asks for it. -/
theorem ofBytes_eq_flag_iff (word : Bytes) (flag : Flag) :
    ofBytes word = .flag flag ↔ flag.IsAsked word := by
  have long : Text.bytes ("--" ++ flag.name) =
      Bytes.dash :: Bytes.dash :: Text.bytes flag.name := Text.bytes_append "--" flag.name
  have short : Text.bytes (String.ofList ['-', flag.letter]) =
      Bytes.dash :: String.utf8EncodeChar flag.letter := by
    cases flag with
    | help => decide
    | version => decide
  unfold Flag.IsAsked
  rw [long, short]
  constructor
  · intro read
    have notValue : ofBytes word ≠ .value := by
      rw [read]
      exact fun impossible => nomatch impossible
    rcases dash_cases notValue with ends | ⟨body, nonempty, split⟩ | ⟨second, rest, other, split⟩
    · rw [ends, ofBytes_endMark] at read
      cases read
    · rw [split, ofBytes_dashes nonempty] at read
      rw [split, (ofLong_eq_flag_iff body flag).mp read]
      exact Or.inl rfl
    · rw [split, ofBytes_dash other] at read
      rw [split]
      exact Or.inr (List.cons_prefix_cons.mpr
        ⟨rfl, (ofShort_eq_flag_iff (second :: rest) flag).mp read⟩)
  · rintro (spelled | ⟨rest, spelled⟩)
    · rw [spelled, ofBytes_dashes flag.name_ne_nil]
      exact (ofLong_eq_flag_iff _ flag).mpr rfl
    · rcases flag.exists_letter_byte with ⟨byte, letter, other⟩
      have split : Bytes.dash :: byte :: rest = word := by
        rw [← spelled, letter]
        rfl
      rw [← split, ofBytes_dash other, ofShort_eq_flag_iff, letter]
      exact ⟨rest, rfl⟩

/-- A word is read as an option with a value exactly if it is spelled as one. -/
theorem ofBytes_eq_flagValue_iff (word : Bytes) (flag : Flag) (value : Bytes) :
    ofBytes word = .flagValue flag value ↔ flag.HasValue value word := by
  have long : Text.bytes ("--" ++ flag.name ++ "=") ++ value =
      Bytes.dash :: Bytes.dash :: (Text.bytes flag.name ++ Bytes.equals :: value) := by
    rw [Text.bytes_append, Text.bytes_append, List.append_assoc, List.append_assoc]
    rfl
  unfold Flag.HasValue
  rw [long]
  constructor
  · intro read
    have notValue : ofBytes word ≠ .value := by
      rw [read]
      exact fun impossible => nomatch impossible
    rcases dash_cases notValue with ends | ⟨body, nonempty, split⟩ | ⟨second, rest, other, split⟩
    · rw [ends, ofBytes_endMark] at read
      cases read
    · rw [split, ofBytes_dashes nonempty] at read
      rw [split, (ofLong_eq_flagValue_iff body flag value).mp read]
    · rw [split, ofBytes_dash other] at read
      rcases ofShort_cases (second :: rest) with ⟨known, same⟩ | ⟨text, similar, same⟩
      · rw [same] at read
        cases read
      · rw [same] at read
        cases read
  · intro spelled
    rw [spelled, ofBytes_dashes (by simp)]
    exact (ofLong_eq_flagValue_iff _ flag value).mpr rfl

end Word
end CommandLine
end AstLink
