import AstLink.Proofs.Log.Breakdown
import AstLink.Proofs.Log.Precedence
import AstLink.Proofs.Path.Canonical
import AstLink.Proofs.Text.Utf8
import Mathlib.Data.List.TakeWhile

namespace AstLink

/-!
How a filter is read.

A plain directive is a level, or a target and a level with an equals sign between them.  No blank
stands at its ends, so the scan finds its pieces where they are cut, and each is cut between two
characters (`Phrase.ofBytes_text`).  A list of plain directives with commas between them is read as
these directives (`Filter.ofSetting?_setting`).

Where no filter is set, or the setting is no text, or a directive is malformed wherever it stands,
the standard filter takes the place of the whole, unless reading breaks down before it gets there
(`Filter.ofSetting?_of_unusable`).
-/

namespace Text

/-! ## Blanks -/

/-- A letter or a digit is no blank. -/
theorem isBlank_eq_false_of_isAlphanumeric {char : Char}
    (alphanumeric : isAlphanumeric char = true) : isBlank char = false := by
  have apart : ∀ range ∈ Alphanumeric.ranges, ∀ blanks ∈
      [(0x09, 0x0d), (0x20, 0x20), (0x85, 0x85), (0xa0, 0xa0), (0x1680, 0x1680), (0x2000, 0x200a),
        (0x2028, 0x2029), (0x202f, 0x202f), (0x205f, 0x205f), (0x3000, 0x3000)],
      range.2 < blanks.1 ∨ blanks.2 < range.1 := by
    decide +kernel
  rcases List.any_eq_true.mp alphanumeric with ⟨⟨low, high⟩, member, within⟩
  have gaps := apart _ member
  simp only [List.forall_mem_cons] at gaps
  simp only [Bool.and_eq_true, decide_eq_true_eq] at within
  rw [← Bool.not_eq_true]
  intro blank
  simp only [isBlank, Bool.or_eq_true, Bool.and_eq_true, decide_eq_true_eq, beq_iff_eq] at blank
  omega

theorem isBlank_eq_false_of_isAlphanum {char : Char} (alphanumeric : char.isAlphanum = true) :
    isBlank char = false := by
  have bounds : 0x30 ≤ char.toNat ∧ char.toNat ≤ 0x7a := by
    have range {low high : Char} (within : low.val ≤ char.val ∧ char.val ≤ high.val)
        (least : 0x30 ≤ low.toNat) (most : high.toNat ≤ 0x7a) :
        0x30 ≤ char.toNat ∧ char.toNat ≤ 0x7a :=
      ⟨Nat.le_trans least (UInt32.le_iff_toNat_le.mp within.1),
        Nat.le_trans (UInt32.le_iff_toNat_le.mp within.2) most⟩
    rcases (Bool.or_eq_true _ _).mp alphanumeric with alpha | digit
    · rcases (Bool.or_eq_true _ _).mp alpha with upper | lower
      · exact range (of_decide_eq_true upper) (by decide) (by decide)
      · have both := (Bool.and_eq_true _ _).mp lower
        exact range ⟨of_decide_eq_true both.1, of_decide_eq_true both.2⟩ (by decide) (by decide)
    · have both := (Bool.and_eq_true _ _).mp digit
      exact range ⟨of_decide_eq_true both.1, of_decide_eq_true both.2⟩ (by decide) (by decide)
  rw [← Bool.not_eq_true]
  intro blank
  simp only [isBlank, Bool.or_eq_true, Bool.and_eq_true, decide_eq_true_eq, beq_iff_eq] at blank
  omega

/-- Blanks in front of a text are trimmed, and nothing else if no blank stands at its ends. -/
theorem trim_append {blanks text : List Char} (blank : ∀ char ∈ blanks, isBlank char = true)
    (first : ∀ char ∈ text.head?, isBlank char = false)
    (last : ∀ char ∈ text.getLast?, isBlank char = false) : trim (blanks ++ text) = text := by
  have kept {text : List Char} (first : ∀ char ∈ text.head?, isBlank char = false) :
      text.dropWhile isBlank = text := by
    cases text with
    | nil => rfl
    | cons char text => exact List.dropWhile_cons_of_neg (by simp [first char rfl])
  rw [trim, List.dropWhile_append_of_pos blank, kept first, kept (by rwa [List.head?_reverse]),
    List.reverse_reverse]

theorem exists_blanks (text : List Char) : ∃ blanks core, text = blanks ++ core ∧
    (∀ char ∈ blanks, isBlank char = true) ∧ ∀ char ∈ core.head?, isBlank char = false := by
  induction text with
  | nil => exact ⟨[], [], rfl, List.forall_mem_nil _, fun _ impossible => nomatch impossible⟩
  | cons char text ih =>
      cases blank : isBlank char with
      | true =>
          rcases ih with ⟨blanks, core, split, allBlank, clear⟩
          exact ⟨char :: blanks, core, by rw [split, List.cons_append],
            List.forall_mem_cons.mpr ⟨blank, allBlank⟩, clear⟩
      | false =>
          refine ⟨[], char :: text, rfl, List.forall_mem_nil _, fun first member => ?_⟩
          cases member
          exact blank

end Text

namespace Log

/-! ## The words for levels -/

namespace Level

theorem isAlpha_of_isLower_toLower {char : Char} (lower : char.toLower.isLower = true) :
    char.isAlpha = true := by
  by_cases upper : char.isUpper = true
  · exact (Bool.or_eq_true _ _).mpr (Or.inl upper)
  · have same : char.toLower = char := dif_neg fun within => upper (decide_eq_true within)
    rw [same] at lower
    exact (Bool.or_eq_true _ _).mpr (Or.inr lower)

/-- A number is written in digits. -/
theorem chars_of_number? {digits : List Char} {number : Nat}
    (read : number? digits = some number) :
    digits ≠ [] ∧ ∀ char ∈ digits, char.isAlphanum = true := by
  unfold number? at read
  split at read
  · next both =>
      simp only [Bool.and_eq_true, Bool.not_eq_true', List.isEmpty_eq_false_iff,
        List.all_eq_true] at both
      refine ⟨both.1, fun char member => ?_⟩
      exact (Bool.or_eq_true _ _).mpr (Or.inr (both.2 char member))
  · cases read

/-- A level's name is written in letters. -/
theorem chars_of_name {word : List Char} {level : Level}
    (named : level.name.toList = word.map Char.toLower) :
    word ≠ [] ∧ ∀ char ∈ word, char.isAlphanum = true := by
  have nonempty : level.name.toList ≠ [] := by cases level <;> decide
  have letters : level.name.toList.all Char.isLower = true := by cases level <;> rfl
  rw [named] at nonempty letters
  refine ⟨fun empty => nonempty (congrArg (List.map Char.toLower) empty), ?_⟩
  intro char member
  have lower := List.all_eq_true.mp letters _ (List.mem_map_of_mem member)
  exact (Bool.or_eq_true _ _).mpr (Or.inl (isAlpha_of_isLower_toLower lower))

/-- A level is asked for by letters or by digits, and a plus sign may stand in front of these. -/
theorem chars_of_ofText? {word : List Char} {level : Level} (named : ofText? word = some level) :
    word ≠ [] ∧ ∀ char ∈ word, char = '+' ∨ char.isAlphanum = true := by
  have byName (found : all.find? (fun level => level.name.toList == word.map Char.toLower) =
      some level) : word ≠ [] ∧ ∀ char ∈ word, char = '+' ∨ char.isAlphanum = true := by
    have same := List.find?_some found
    have known := chars_of_name (beq_iff_eq.mp same)
    exact ⟨known.1, fun char member => Or.inr (known.2 char member)⟩
  unfold ofText? at named
  split at named
  · next unsigned =>
      cases read : number? unsigned with
      | some number =>
          refine ⟨List.cons_ne_nil _ _, fun char member => ?_⟩
          exact (List.mem_cons.mp member).imp_right ((chars_of_number? read).2 char)
      | none =>
          simp only [read] at named
          exact byName named
  · cases read : number? word with
    | some number =>
        have known := chars_of_number? read
        exact ⟨known.1, fun char member => Or.inr (known.2 char member)⟩
    | none =>
        simp only [read] at named
        exact byName named

end Level

namespace Field

/-- Where a value is asked for, it decides whether there is a field at all. -/
theorem ofText?_valued (values : Values) {name value : List Char} (clear : '=' ∉ name)
    (clear' : '=' ∉ value) :
    ofText? values (name ++ '=' :: value) =
      if values.accepts (String.ofList value) then
        some ⟨String.ofList name, some (String.ofList value)⟩
      else none := by
  have other {text : List Char} (clear : '=' ∉ text) : ∀ char ∈ text, (char != '=') = true := by
    intro char member
    exact bne_iff_ne.mpr fun same => clear (same ▸ member)
  have before : (name ++ '=' :: value).takeWhile (fun char => char != '=') = name := by
    rw [List.takeWhile_append_of_pos (other clear), List.takeWhile_cons_of_neg (by decide),
      List.append_nil]
  have behind : (name ++ '=' :: value).dropWhile (fun char => char != '=') = '=' :: value := by
    rw [List.dropWhile_append_of_pos (other clear), List.dropWhile_cons_of_neg (by decide)]
  have whole : value.takeWhile (fun char => char != '=') = value :=
    List.takeWhile_eq_self_iff.mpr (other clear')
  simp only [ofText?, before, behind, whole]

end Field

namespace Directive

/-! ## Plain directives -/

/-- A plain directive in writing: a level, or a target and a level. -/
inductive Phrase where
  | level (first : Char) (more : List Char) (level : Level) (begins : mayBegin first = true)
      (named : Level.ofText? (first :: more) = some level)
  | targeted (first : Char) (more word : List Char) (level : Level)
      (begins : mayBegin first = true)
      (unmarked : ∀ char ∈ first :: more, char ≠ ',' ∧ char ≠ '=' ∧ char ≠ '[')
      (named : Level.ofText? word = some level)

namespace Phrase

/-- How it is written. -/
def text : Phrase -> List Char
  | .level first more _ _ _ => first :: more
  | .targeted first more word _ _ _ _ => first :: more ++ '=' :: word

/-- What it says. -/
def rule : Phrase -> Rule
  | .level _ _ asked _ _ => ⟨none, none, asked⟩
  | .targeted first more _ asked _ _ _ => ⟨some (String.ofList (first :: more)), none, asked⟩

end Phrase

theorem isBlank_of_mayBegin {char : Char} (begins : mayBegin char = true) :
    Text.isBlank char = false := by
  simp only [mayBegin, Bool.or_eq_true, decide_eq_true_eq] at begins
  rcases begins with ((rfl | rfl) | rfl) | alphanumeric
  · decide
  · decide
  · decide
  · exact Text.isBlank_eq_false_of_isAlphanumeric alphanumeric

theorem ne_bracket_of_mayBegin {char : Char} (begins : mayBegin char = true) : char ≠ '[' := by
  rintro rfl
  revert begins
  decide +kernel

/-- A word for a level has no mark and no blank in it. -/
theorem unmarked_of_ofText? {word : List Char} {level : Level}
    (named : Level.ofText? word = some level) {char : Char} (member : char ∈ word) :
    (char ≠ ',' ∧ char ≠ '=' ∧ char ≠ '[') ∧ Text.isBlank char = false := by
  rcases (Level.chars_of_ofText? named).2 char member with rfl | alphanumeric
  · decide
  · refine ⟨⟨?_, ?_, ?_⟩, Text.isBlank_eq_false_of_isAlphanum alphanumeric⟩
    all_goals
      rintro rfl
      revert alphanumeric
      decide

theorem trim_of_ofText? {word : List Char} {level : Level}
    (named : Level.ofText? word = some level) : Text.trim word = word :=
  Text.trim_append (List.forall_mem_nil _)
    (fun _ member => (unmarked_of_ofText? named (List.mem_of_mem_head? member)).2)
    (fun _ member => (unmarked_of_ofText? named (List.mem_of_mem_getLast? member)).2)

/-- Before a target and a level blanks are trimmed, and behind them there are none. -/
theorem trim_marked {blanks core word : List Char} {level : Level}
    (blank : ∀ char ∈ blanks, Text.isBlank char = true)
    (first : ∀ char ∈ core.head?, Text.isBlank char = false)
    (named : Level.ofText? word = some level) :
    Text.trim (blanks ++ (core ++ '=' :: word)) = core ++ '=' :: word := by
  refine Text.trim_append blank (fun char member => ?_) (fun char member => ?_)
  · cases core with
    | nil =>
        rw [← Option.some.inj member]
        decide
    | cons head core => exact first char member
  · rw [List.append_cons, List.getLast?_append_of_ne_nil _ (Level.chars_of_ofText? named).1]
      at member
    exact (unmarked_of_ofText? named (List.mem_of_mem_getLast? member)).2

/-! ## Pieces -/

open Text.Utf8 (encode encode_append encode_cons)

theorem isBoundary_of_drop_eq_cons {written later : Bytes} {offset : Nat} {byte : UInt8}
    (behind : written.drop offset = byte :: later) :
    isBoundary written offset = true ↔ byte.toNat < 0x80 ∨ 0xbf < byte.toNat := by
  have low : 0x80 ≤ byte ↔ 0x80 ≤ byte.toNat := UInt8.le_iff_toNat_le
  have high : byte ≤ 0xbf ↔ byte.toNat ≤ 0xbf := UInt8.le_iff_toNat_le
  rw [isBoundary, behind]
  simp only [Bool.not_eq_true', Bool.and_eq_false_iff, decide_eq_false_iff_not, low, high]
  omega

/-- Between two parts of a text there is a place to cut. -/
theorem isBoundary_encode (front back : List Char) :
    isBoundary (encode (front ++ back)) (encode front).length = true := by
  have behind : (encode (front ++ back)).drop (encode front).length = encode back := by
    rw [encode_append, List.drop_left]
  cases back with
  | nil =>
      rw [isBoundary, behind]
      rfl
  | cons char back =>
      rcases (Text.Utf8.utf8EncodeChar_spelled char).first with ⟨byte, later, split, first⟩
      rw [encode_cons, split] at behind
      exact (isBoundary_of_drop_eq_cons behind).mpr first

/-- A text can be cut nowhere else. -/
theorem exists_append_of_isBoundary {text : List Char} {offset : Nat}
    (within : offset ≤ (encode text).length) (cut : isBoundary (encode text) offset = true) :
    ∃ front back, text = front ++ back ∧ (encode front).length = offset := by
  induction text generalizing offset with
  | nil => exact ⟨[], [], rfl, (Nat.le_zero.mp within).symm⟩
  | cons char text ih =>
      have split : (String.utf8EncodeChar char ++ encode text).drop offset =
          (String.utf8EncodeChar char).drop offset ++
            (encode text).drop (offset - (String.utf8EncodeChar char).length) := List.drop_append
      rw [encode_cons] at within cut
      rcases Nat.lt_or_ge offset (String.utf8EncodeChar char).length with inside | past
      · -- Inside the character a byte follows that continues it.
        cases offset with
        | zero => exact ⟨[], char :: text, rfl, rfl⟩
        | succ offset =>
            cases behind : (String.utf8EncodeChar char).drop (offset + 1) with
            | nil =>
                have long := List.drop_eq_nil_iff.mp behind
                omega
            | cons byte later =>
                have member : byte ∈ (String.utf8EncodeChar char).tail := by
                  rw [← List.drop_one]
                  refine List.mem_of_mem_drop (i := offset) ?_
                  rw [List.drop_drop, Nat.add_comm, behind]
                  exact List.mem_cons_self
                have continues :=
                  (Text.Utf8.utf8EncodeChar_spelled char).continues byte member
                rw [behind, List.cons_append] at split
                have outside := (isBoundary_of_drop_eq_cons split).mp cut
                omega
      · rw [List.drop_eq_nil_of_le past, List.nil_append] at split
        have later : isBoundary (encode text)
            (offset - (String.utf8EncodeChar char).length) = true := by
          rwa [isBoundary, split] at cut
        rw [List.length_append] at within
        rcases ih (by omega) later with ⟨front, back, whole, length⟩
        refine ⟨char :: front, back, by rw [whole, List.cons_append], ?_⟩
        rw [encode_cons, List.length_append]
        omega

/-- A part of a text is cut out as it is. -/
theorem piece_encode (front middle back : List Char) :
    piece (encode (front ++ middle ++ back)) (encode front).length
      (encode (front ++ middle)).length = .ok middle := by
  have low : isBoundary (encode (front ++ middle ++ back)) (encode front).length = true := by
    rw [List.append_assoc]
    exact isBoundary_encode front (middle ++ back)
  have cut : ((encode (front ++ middle ++ back)).drop (encode front).length).take
      ((encode (front ++ middle)).length - (encode front).length) = encode middle := by
    rw [List.append_assoc, encode_append front (middle ++ back), List.drop_left, encode_append,
      encode_append, List.length_append, Nat.add_sub_cancel_left, List.take_left]
  rw [piece, low, isBoundary_encode, cut, Text.Utf8.lossy_encode]
  rfl

/-- The end of a text is cut off as it is. -/
theorem rest_encode (front back : List Char) :
    rest (encode (front ++ back)) (encode front).length = .ok back := by
  have cut := piece_encode front back []
  rwa [List.append_nil] at cut

/-! ## The scan -/

variable {values : Values}

/-- Characters that leave a scan as it is are passed over. -/
theorem run_of_stays {written : Bytes} {scan : Scan} {chars : List Char}
    (stays : ∀ char ∈ chars, ∀ offset, scan.step values written offset char = .ok scan)
    (offset : Nat) (later : List Char) :
    scan.run values written offset (chars ++ later) =
      scan.run values written (offset + (encode chars).length) later := by
  induction chars generalizing offset with
  | nil => rfl
  | cons char chars ih =>
      have onward : scan.run values written offset (char :: chars ++ later) =
          scan.run values written (offset + char.utf8Size) (chars ++ later) := by
        rw [List.cons_append, Scan.run, stays char List.mem_cons_self]
        rfl
      rw [onward, ih fun other member => stays other (List.mem_cons_of_mem _ member),
        encode_cons, List.length_append, String.length_utf8EncodeChar, Nat.add_assoc]

/-- A target goes on up to a mark. -/
theorem run_target {written : Bytes} {scan : Scan} (inTarget : scan.place = .target)
    {chars : List Char} (unmarked : ∀ char ∈ chars, char ≠ '=' ∧ char ≠ '[') (offset : Nat)
    (later : List Char) :
    scan.run values written offset (chars ++ later) =
      scan.run values written (offset + (encode chars).length) later := by
  refine run_of_stays (fun char member offset => ?_) offset later
  rw [Scan.step, inTarget]
  simp only [unmarked char member, if_false]

/-- A field goes on up to its closing brace. -/
theorem run_field {written : Bytes} {scan : Scan} {low : Nat} (inField : scan.place = .field low)
    {chars : List Char} (unclosed : '\x7d' ∉ chars) (offset : Nat) (later : List Char) :
    scan.run values written offset (chars ++ later) =
      scan.run values written (offset + (encode chars).length) later := by
  refine run_of_stays (fun char member offset => ?_) offset later
  rw [Scan.step, inField]
  refine if_neg fun closing : char = '\x7d' => ?_
  exact unclosed (closing ▸ member)

/-- A level goes on to the end. -/
theorem run_level {written : Bytes} {scan : Scan} {low : Nat} (inLevel : scan.place = .level low)
    (offset : Nat) (chars : List Char) : scan.run values written offset chars = .ok scan := by
  have stays (char : Char) (offset : Nat) : scan.step values written offset char = .ok scan := by
    rw [Scan.step, inLevel]
  have passed := run_of_stays (fun char (_ : char ∈ chars) => stays char) offset []
  rwa [List.append_nil] at passed

variable (values) in
/-- A directive begins with its target, or with what may still turn out to be one. -/
theorem run_start {first : Char} (begins : mayBegin first = true) {more : List Char}
    (unmarked : ∀ char ∈ more, char ≠ '=' ∧ char ≠ '[') (written : Bytes) (later : List Char) :
    ({} : Scan).run values written 0 (first :: more ++ later) =
      ({ place := .target } : Scan).run values written (encode (first :: more)).length later := by
  have starts : ({} : Scan).step values written 0 first = .ok { place := .target } := by
    simp only [Scan.step, ne_bracket_of_mayBegin begins, begins, if_false, if_true]
  have onward : ({} : Scan).run values written 0 (first :: more ++ later) =
      ({ place := .target } : Scan).run values written (0 + first.utf8Size) (more ++ later) := by
    rw [List.cons_append, Scan.run, starts]
    rfl
  rw [onward, run_target rfl unmarked, encode_cons, List.length_append,
    String.length_utf8EncodeChar, Nat.zero_add]

/-- What stands before the equals sign is cut out as the target, and the level follows. -/
theorem run_targeted {first : Char} (begins : mayBegin first = true) {more : List Char}
    (unmarked : ∀ char ∈ more, char ≠ '=' ∧ char ≠ '[') (written : Bytes) (word : List Char) :
    ({} : Scan).run values written 0 (first :: more ++ '=' :: word) =
      (piece written 0 (encode (first :: more)).length).map (fun target =>
        { place := .level ((encode (first :: more)).length + 1)
          target := some (String.ofList target) }) := by
  rw [run_start values begins unmarked, Scan.run, Scan.step]
  cases piece written 0 (encode (first :: more)).length with
  | error defect => rfl
  | ok target => exact run_level rfl _ word

/-- A directive that begins otherwise is malformed. -/
theorem run_of_not_mayBegin {first : Char} (notBracket : first ≠ '[')
    (notBegins : mayBegin first = false) (written : Bytes) (later : List Char) :
    ({} : Scan).run values written 0 (first :: later) = .error .malformed := by
  have stops : ({} : Scan).step values written 0 first = .error .malformed := by
    simp only [Scan.step, notBracket, notBegins, if_false, Bool.false_eq_true]
  rw [Scan.run, stops]
  rfl

theorem ofBytes_encode (text : List Char) :
    ofBytes values (encode text) =
      (({} : Scan).run values (encode text) 0 (Text.trim text)).bind
        (Scan.directive (encode text)) := by
  rw [ofBytes, (Text.Utf8.decode?_eq_some_iff _ text).mpr rfl]
  rfl

namespace Phrase

/-- A plain directive is read as what it says. -/
theorem ofBytes_text (phrase : Phrase) :
    ofBytes values (encode phrase.text) = .ok phrase.rule.directive := by
  cases phrase with
  | level first more level begins named =>
      have clean {char : Char} (member : char ∈ first :: more) := unmarked_of_ofText? named member
      have scanned := run_start values begins
        (fun char member => (clean (List.mem_cons_of_mem _ member)).1.2)
        (encode (first :: more)) []
      have whole : rest (encode (first :: more)) 0 = .ok (first :: more) :=
        rest_encode [] (first :: more)
      rw [List.append_nil] at scanned
      rw [text, ofBytes_encode, trim_of_ofText? named, scanned]
      simp only [Scan.run, Scan.directive, whole, bind, Except.bind, named]
      rfl
  | targeted first more word level begins unmarked named =>
      have clear : ∀ char ∈ (first :: more).head?, Text.isBlank char = false := by
        intro char member
        cases member
        exact isBlank_of_mayBegin begins
      have trimmed : Text.trim (first :: more ++ '=' :: word) = first :: more ++ '=' :: word :=
        trim_marked (List.forall_mem_nil _) clear named
      have target : piece (encode (first :: more ++ '=' :: word)) 0
          (encode (first :: more)).length = .ok (first :: more) :=
        piece_encode [] (first :: more) ('=' :: word)
      have ending : rest (encode (first :: more ++ '=' :: word))
          ((encode (first :: more)).length + 1) = .ok word := by
        have cut := rest_encode (first :: more ++ ['=']) word
        rwa [← List.append_cons, encode_append (first :: more) ['='], List.length_append] at cut
      have filled : word.isEmpty = false :=
        List.isEmpty_eq_false_iff.mpr (Level.chars_of_ofText? named).1
      rw [text, ofBytes_encode, trimmed,
        run_targeted begins fun char member => (unmarked char (List.mem_cons_of_mem _ member)).2,
        target]
      simp only [Except.map, Except.bind, Scan.directive, ending, filled, named, bind]
      rfl

theorem text_ne_nil (phrase : Phrase) : phrase.text ≠ [] := by
  cases phrase with
  | level => exact List.cons_ne_nil _ _
  | targeted => exact List.cons_ne_nil _ _

theorem comma_notMem_text (phrase : Phrase) : ',' ∉ phrase.text := by
  intro member
  cases phrase with
  | level first more level begins named => exact (unmarked_of_ofText? named member).1.1 rfl
  | targeted first more word level begins unmarked named =>
      rcases List.mem_append.mp member with inTarget | behind
      · exact (unmarked _ inTarget).1 rfl
      · rcases List.mem_cons.mp behind with impossible | inWord
        · exact absurd impossible (by decide)
        · exact (unmarked_of_ofText? named inWord).1.1 rfl

theorem plain (phrase : Phrase) : phrase.rule.Plain := by
  cases phrase with
  | level => exact ⟨rfl, nofun⟩
  | targeted first more word level begins unmarked named =>
      refine ⟨rfl, fun empty => ?_⟩
      have none := congrArg String.toList (Option.some.inj empty)
      rw [String.toList_ofList] at none
      cases none

end Phrase

/-! ## Directives about a field -/

/-- A directive that names a field and a level, and no target and no span, in writing. -/
def fieldText (field word : List Char) : List Char :=
  ['[', '\x7b'] ++ field ++ ['\x7d', ']', '='] ++ word

variable {field word : List Char} {level : Level}

theorem trim_fieldText (named : Level.ofText? word = some level) :
    Text.trim (fieldText field word) = fieldText field word := by
  have marked : fieldText field word = ['[', '\x7b'] ++ field ++ ['\x7d', ']'] ++ '=' :: word := by
    simp [fieldText]
  have clear : ∀ char ∈ (['[', '\x7b'] ++ field ++ ['\x7d', ']']).head?,
      Text.isBlank char = false := by
    intro char first
    rw [← Option.some.inj first]
    decide
  rw [marked]
  exact trim_marked (List.forall_mem_nil _) clear named

variable (field word) in
theorem piece_fieldText :
    piece (encode (fieldText field word)) 2 (2 + (encode field).length) = .ok field := by
  have cut := piece_encode ['[', '\x7b'] field (['\x7d', ']', '='] ++ word)
  rw [encode_append ['[', '\x7b'] field, List.length_append, ← List.append_assoc] at cut
  exact cut

variable (field word) in
theorem rest_fieldText :
    rest (encode (fieldText field word)) (2 + (encode field).length + 3) = .ok word := by
  have cut := rest_encode (['[', '\x7b'] ++ field ++ ['\x7d', ']', '=']) word
  rw [encode_append (['[', '\x7b'] ++ field) ['\x7d', ']', '='],
    encode_append ['[', '\x7b'] field, List.length_append, List.length_append] at cut
  exact cut

/-- The scan gets to the field, the span being empty, and passes over it. -/
theorem run_fieldText (unclosed : '\x7d' ∉ field) :
    ({} : Scan).run values (encode (fieldText field word)) 0 (fieldText field word) =
      ({ place := .field 2 } : Scan).run values (encode (fieldText field word))
        (2 + (encode field).length) ('\x7d' :: ']' :: '=' :: word) := by
  have span : piece (encode (fieldText field word)) 1 1 = .ok [] := piece_encode ['['] [] _
  have opened : ({ place := .span 1 } : Scan).step values (encode (fieldText field word)) 1
      '\x7b' = .ok { place := .field 2 } := by
    simp only [Scan.step, span]
    rfl
  have begun (later : List Char) :
      ({} : Scan).run values (encode (fieldText field word)) 0 ('[' :: '\x7b' :: later) =
        ({ place := .field 2 } : Scan).run values (encode (fieldText field word)) 2 later := by
    change ({ place := .span 1 } : Scan).run values (encode (fieldText field word)) 1
      ('\x7b' :: later) = _
    rw [Scan.run, opened]
    rfl
  have split : fieldText field word =
      '[' :: '\x7b' :: (field ++ '\x7d' :: ']' :: '=' :: word) := by
    simp [fieldText]
  rw [congrArg (Scan.run values _ _ _) split, begun, run_field rfl unclosed]

/-- It is read as its field is, and malformed where its field is none. -/
theorem ofBytes_fieldText (unclosed : '\x7d' ∉ field)
    (named : Level.ofText? word = some level) :
    ofBytes values (encode (fieldText field word)) =
      match Field.ofText? values field with
      | some field => .ok ⟨none, none, some field, level⟩
      | none => .error .malformed := by
  rw [ofBytes_encode, trim_fieldText named, run_fieldText unclosed, Scan.run]
  simp only [Scan.step, piece_fieldText, bind, Except.bind]
  cases Field.ofText? values field with
  | none => rfl
  | some asked =>
      have filled : word.isEmpty = false :=
        List.isEmpty_eq_false_iff.mpr (Level.chars_of_ofText? named).1
      have closed : ({ place := .afterField, field := some asked } : Scan).run values
          (encode (fieldText field word)) (2 + (encode field).length + 1) (']' :: '=' :: word) =
            .ok { place := .level (2 + (encode field).length + 3), field := some asked } :=
        run_level rfl _ word
      have finished : Scan.directive (encode (fieldText field word))
          { place := .level (2 + (encode field).length + 3), field := some asked } =
            .ok ⟨none, none, some asked, level⟩ := by
        simp only [Scan.directive, rest_fieldText, bind, Except.bind, filled, named]
        rfl
      change Except.bind (Scan.run values _ { place := .afterField, field := some asked }
        (2 + (encode field).length + 1) (']' :: '=' :: word)) (Scan.directive _) = _
      rw [closed]
      exact finished

/-- Where a value is asked for, the directive is malformed if that is none. -/
theorem ofBytes_fieldText_valued {name value : List Char}
    (clear : '=' ∉ name ∧ '\x7d' ∉ name) (clear' : '=' ∉ value ∧ '\x7d' ∉ value)
    (named : Level.ofText? word = some level) :
    ofBytes values (encode (fieldText (name ++ '=' :: value) word)) =
      if values.accepts (String.ofList value) then
        .ok ⟨none, none, some ⟨String.ofList name, some (String.ofList value)⟩, level⟩
      else .error .malformed := by
  have unclosed : '\x7d' ∉ name ++ '=' :: value := by
    simp [clear.2, clear'.2]
  rw [ofBytes_fieldText unclosed named, Field.ofText?_valued values clear.1 clear'.1]
  cases values.accepts (String.ofList value) with
  | true => rfl
  | false => rfl

/-! ## The two forms -/

/-- The forms of a plain directive: a level, or a target and a level. -/
inductive Form : List Char -> Prop
  | level {word : List Char} {level : Level} (named : Level.ofText? word = some level) : Form word
  | targeted {target word : List Char} {level : Level}
      (unmarked : ∀ char ∈ target, char ≠ ',' ∧ char ≠ '=' ∧ char ≠ '[')
      (named : Level.ofText? word = some level) : Form (target ++ '=' :: word)

/-- An end that is cut off at the equals sign or before it holds that sign. -/
theorem equals_mem_of_rest {target word ending : List Char} {low : Nat}
    (early : low ≤ (encode target).length)
    (cut : rest (encode (target ++ '=' :: word)) low = .ok ending) : '=' ∈ ending := by
  have boundary : isBoundary (encode (target ++ '=' :: word)) low = true := by
    unfold rest piece at cut
    split at cut
    · next both => exact (Bool.and_eq_true _ _).mp both |>.1
    · cases cut
  have within : low ≤ (encode (target ++ '=' :: word)).length := by
    rw [encode_append, List.length_append]
    omega
  rcases exists_append_of_isBoundary within boundary with ⟨front, back, whole, length⟩
  rw [whole, ← length, rest_encode] at cut
  cases cut
  rcases List.append_eq_append_iff.mp whole with
    ⟨beyond, frontIs, markIs⟩ | ⟨part, targetIs, backIs⟩
  · cases beyond with
    | nil =>
        rw [List.nil_append] at markIs
        exact markIs ▸ List.mem_cons_self
    | cons char beyond =>
        -- The cut would lie behind the sign.
        have positive := List.length_pos_iff.mpr
          (Text.Utf8.encode_ne_nil (List.cons_ne_nil char beyond))
        rw [frontIs, encode_append, List.length_append] at length
        omega
  · exact backIs ▸ List.mem_append_right part List.mem_cons_self

/-- Behind a blank the pieces are shifted, and what is cut off as the level begins too early. -/
theorem not_readable_of_shifted {blanks : List Char} (shifted : blanks ≠ []) {first : Char}
    (begins : mayBegin first = true) {more : List Char}
    (unmarked : ∀ char ∈ more, char ≠ '=' ∧ char ≠ '[') (word : List Char)
    (directive : Directive) :
    (({} : Scan).run values (encode (blanks ++ first :: more ++ '=' :: word)) 0
      (first :: more ++ '=' :: word)).bind
        (Scan.directive (encode (blanks ++ first :: more ++ '=' :: word))) ≠ .ok directive := by
  intro readable
  rw [run_targeted begins unmarked] at readable
  cases cut : piece (encode (blanks ++ first :: more ++ '=' :: word)) 0
      (encode (first :: more)).length with
  | error defect =>
      rw [cut] at readable
      cases readable
  | ok target =>
      rw [cut] at readable
      simp only [Except.map, Except.bind, Scan.directive] at readable
      cases ending : rest (encode (blanks ++ first :: more ++ '=' :: word))
          ((encode (first :: more)).length + 1) with
      | error defect =>
          rw [ending] at readable
          cases readable
      | ok word' =>
          have positive := List.length_pos_iff.mpr (Text.Utf8.encode_ne_nil shifted)
          have early : (encode (first :: more)).length + 1 ≤
              (encode (blanks ++ first :: more)).length := by
            rw [encode_append, List.length_append]
            omega
          have equals := equals_mem_of_rest early ending
          have filled : word'.isEmpty = false :=
            List.isEmpty_eq_false_iff.mpr (List.ne_nil_of_mem equals)
          rw [ending] at readable
          cases named : Level.ofText? word' with
          | none =>
              simp only [bind, Except.bind, filled, named] at readable
              cases readable
          | some level => exact (unmarked_of_ofText? named equals).1.2.1 rfl

/-- A directive of either form is readable just if it is a plain directive. -/
theorem exists_phrase_iff {text : List Char} (form : Form text) :
    (∃ phrase : Phrase, phrase.text = text) ↔
      ∃ directive, ofBytes values (encode text) = .ok directive := by
  constructor
  · rintro ⟨phrase, rfl⟩
    exact ⟨_, phrase.ofBytes_text⟩
  rintro ⟨directive, readable⟩
  rw [ofBytes_encode] at readable
  cases form with
  | @level _ level named =>
      have clean {char : Char} (member : char ∈ text) := unmarked_of_ofText? named member
      cases text with
      | nil => exact absurd rfl (Level.chars_of_ofText? named).1
      | cons first more =>
          cases begins : mayBegin first with
          | true => exact ⟨.level first more level begins named, rfl⟩
          | false =>
              rw [trim_of_ofText? named,
                run_of_not_mayBegin (clean List.mem_cons_self).1.2.2 begins] at readable
              cases readable
  | @targeted target word level unmarked named =>
      rcases Text.exists_blanks target with ⟨blanks, core, rfl, blank, clear⟩
      have marks {char : Char} (member : char ∈ core) :=
        unmarked char (List.mem_append_right blanks member)
      rw [List.append_assoc, trim_marked blank clear named, ← List.append_assoc] at readable
      cases core with
      | nil =>
          rw [List.nil_append, run_of_not_mayBegin (by decide) (by decide +kernel)] at readable
          cases readable
      | cons first more =>
          cases begins : mayBegin first with
          | false =>
              rw [List.cons_append, run_of_not_mayBegin (marks List.mem_cons_self).2.2 begins]
                at readable
              cases readable
          | true =>
              cases blanks with
              | nil => exact ⟨.targeted first more word level begins unmarked named, rfl⟩
              | cons char blanks =>
                  exact absurd readable (not_readable_of_shifted (List.cons_ne_nil _ _) begins
                    (fun char member => (marks (List.mem_cons_of_mem _ member)).2) _ _)

end Directive

/-! ## Filters -/

namespace Filter

open Text.Utf8 (encode encode_append)

/-- Plain directives as they are written in a filter. -/
def setting (phrases : List Directive.Phrase) : Bytes :=
  encode ([','].intercalate (phrases.map Directive.Phrase.text))

/-- Texts with commas between them are cut into these texts again. -/
theorem parts_join {texts : List (List Char)} (some : texts ≠ [])
    (nonempty : ∀ text ∈ texts, text ≠ []) (whole : ∀ text ∈ texts, ',' ∉ text) :
    parts (encode ([','].intercalate texts)) = texts.map encode := by
  have joined : encode ([','].intercalate texts) = [comma].intercalate (texts.map encode) := by
    clear some nonempty whole
    induction texts with
    | nil => rfl
    | cons first texts ih =>
        cases texts with
        | nil => simp
        | cons second texts =>
            simp only [List.intercalate_cons_cons, List.map_cons, encode_append] at ih ⊢
            rw [ih]
            rfl
  have split : Bytes.splitOn comma (encode ([','].intercalate texts)) = texts.map encode := by
    rw [joined, Bytes.splitOn_eq]
    refine List.splitOn_intercalate comma (fun bytes member inside => ?_) (by simpa using some)
    rcases List.mem_map.mp member with ⟨text, original, rfl⟩
    rcases Text.Utf8.exists_mem_of_mem_encode inside (by decide) with ⟨char, found, code⟩
    have isComma : char = ',' := Char.toNat_inj.mp code
    exact whole text original (isComma ▸ found)
  rw [parts, split, List.filter_eq_self]
  intro bytes member
  rcases List.mem_map.mp member with ⟨text, original, rfl⟩
  simpa using Text.Utf8.encode_ne_nil (nonempty text original)

/-- Plain directives with commas between them are read as what they say. -/
theorem ofSetting?_setting (values : Values) {phrases : List Directive.Phrase}
    (nonempty : phrases ≠ []) :
    ofSetting? (some (setting phrases)) values =
      some (ofDirectives values ((phrases.map Directive.Phrase.rule).map Rule.directive)) := by
  have cut : parts (setting phrases) =
      phrases.map (fun phrase => encode phrase.text) := by
    rw [setting, parts_join (by simpa using nonempty), List.map_map]
    · rfl
    · simpa using fun phrase _ => phrase.text_ne_nil
    · simpa using fun phrase _ => phrase.comma_notMem_text
  have read : (phrases.map fun phrase => encode phrase.text).mapM (Directive.ofBytes values) =
      .ok ((phrases.map Directive.Phrase.rule).map Rule.directive) := by
    clear nonempty cut
    induction phrases with
    | nil => rfl
    | cons phrase phrases ih =>
        rw [List.map_cons, List.mapM_cons, phrase.ofBytes_text, ih]
        rfl
  have decoded : Text.Utf8.decode? (setting phrases) ≠ none :=
    Option.ne_none_iff_exists'.mpr ⟨_, (Text.Utf8.decode?_eq_some_iff _ _).mpr rfl⟩
  have whole : directives values (setting phrases) =
      .ok ((phrases.map Directive.Phrase.rule).map Rule.directive) := by
    rw [directives_of_text values decoded, cut, read]
  simp only [ofSetting?, Option.map_some, whole]

/-- A setting of which no filter is made: there is none, or it is no text, or one of its directives
is malformed, whatever the others are. -/
inductive Unusable (values : Values) : Option Bytes -> Prop
  | unset : Unusable values none
  | noText {written : Bytes} (undecodable : Text.Utf8.decode? written = none) :
      Unusable values (some written)
  | malformed {written part : Bytes} (member : part ∈ parts written)
      (defect : Directive.ofBytes values part = .error .malformed) : Unusable values (some written)

/-- The standard filter stands in for a setting that cannot be used, unless reading it breaks down.
-/
theorem ofSetting?_of_unusable {values : Values} {setting : Option Bytes}
    (unusable : Unusable values setting) (reads : ¬ BreaksDown values setting) :
    ofSetting? setting values = some standard := by
  rw [← ofSetting?_eq_none_iff] at reads
  have standing {written : Bytes} (unread : ∀ read, directives values written ≠ .ok read)
      (reads : ofSetting? (some written) values ≠ none) :
      ofSetting? (some written) values = some standard := by
    unfold ofSetting? at reads ⊢
    cases outcome : directives values written with
    | ok read => exact absurd outcome (unread read)
    | error defect =>
        cases defect with
        | malformed => simp only [Option.map_some, outcome]
        | splitCharacter => simp [outcome] at reads
  cases unusable with
  | unset => rfl
  | @noText written undecodable =>
      refine standing (fun read => ?_) reads
      rw [directives_of_undecodable values undecodable]
      exact fun impossible => nomatch impossible
  | @malformed written part member defect =>
      refine standing (fun read whole => ?_) reads
      by_cases undecodable : Text.Utf8.decode? written = none
      · rw [directives_of_undecodable values undecodable] at whole
        cases whole
      · rw [directives_of_text values undecodable] at whole
        rcases Lists.exists_ok_of_mapM whole member with ⟨result, readable⟩
        rw [defect] at readable
        cases readable

theorem shows_standard (event : Event) : standard.shows event = false := rfl

end Filter

end Log
end AstLink
