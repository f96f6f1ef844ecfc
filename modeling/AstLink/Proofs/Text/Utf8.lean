import AstLink.Text.Utf8

namespace AstLink
namespace Text
namespace Utf8

/-!
The reader of UTF-8 reads exactly what the encoding writes.

`Spelled` is the table of the encoding: how the bits of a character's number are spread over one to
four bytes.  The machine reads a spelled character as that character (`unitsFrom_of_spelled`).
Conversely, between characters it has nothing on its hands, and inside a character it has taken
bytes which every continuation that it would accept completes to a spelled character (`Holds`).  So
bytes of which no piece is malformed are the encoding of what was read, and a byte string has a
text just if it is the encoding of that text (`decode?_eq_some_iff`).
-/

/-! ## The table -/

/-- How a number is spelled in bytes. -/
inductive Spelled (value : Nat) : Bytes -> Prop
  | one {a : UInt8} (high : value < 0x80) (first : a.toNat = value) : Spelled value [a]
  | two {a b : UInt8} (low : 0x80 ≤ value) (high : value < 0x800)
      (first : a.toNat = 0xc0 + value / 0x40) (second : b.toNat = 0x80 + value % 0x40) :
      Spelled value [a, b]
  | three {a b c : UInt8} (low : 0x800 ≤ value) (high : value < 0x10000)
      (first : a.toNat = 0xe0 + value / 0x1000) (second : b.toNat = 0x80 + value / 0x40 % 0x40)
      (third : c.toNat = 0x80 + value % 0x40) : Spelled value [a, b, c]
  | four {a b c d : UInt8} (low : 0x10000 ≤ value) (high : value < 0x110000)
      (first : a.toNat = 0xf0 + value / 0x40000) (second : b.toNat = 0x80 + value / 0x1000 % 0x40)
      (third : c.toNat = 0x80 + value / 0x40 % 0x40) (fourth : d.toNat = 0x80 + value % 0x40) :
      Spelled value [a, b, c, d]

theorem ofNat_eq (byte : UInt8) {value : Nat} (same : byte.toNat = value) :
    UInt8.ofNat value = byte := same ▸ UInt8.ofNat_toNat

theorem toNat_ofNat {value : Nat} (small : value < 0x100) : (UInt8.ofNat value).toNat = value :=
  UInt8.toNat_ofNat_of_lt' small

/-- Every number of a character has a spelling. -/
theorem exists_spelled {value : Nat} (valid : value.isValidChar) :
    ∃ bytes, Spelled value bytes := by
  unfold Nat.isValidChar at valid
  by_cases one : value < 0x80
  · exact ⟨_, .one one (toNat_ofNat (by omega))⟩
  by_cases two : value < 0x800
  · exact ⟨_, .two (by omega) two (toNat_ofNat (by omega)) (toNat_ofNat (by omega))⟩
  by_cases three : value < 0x10000
  · exact ⟨_, .three (by omega) three (toNat_ofNat (by omega)) (toNat_ofNat (by omega))
      (toNat_ofNat (by omega))⟩
  · exact ⟨_, .four (by omega) (by omega) (toNat_ofNat (by omega)) (toNat_ofNat (by omega))
      (toNat_ofNat (by omega)) (toNat_ofNat (by omega))⟩

/-- The encoding writes the spelling. -/
theorem utf8EncodeChar_of_spelled {value : Nat} {bytes : Bytes} (valid : value.isValidChar)
    (spelled : Spelled value bytes) : String.utf8EncodeChar (Char.ofNat value) = bytes := by
  have kept : (Char.ofNat value).val.toNat = value := by
    rw [Char.ofNat, dif_pos valid]
    rfl
  rw [String.utf8EncodeChar]
  simp only [kept]
  cases spelled with
  | @one a high first => rw [if_pos (by omega), ofNat_eq a first]
  | @two a b low high first second =>
      rw [if_neg (by omega), if_pos (by omega), ofNat_eq a (by omega), ofNat_eq b (by omega)]
  | @three a b c low high first second third =>
      rw [if_neg (by omega), if_neg (by omega), if_pos (by omega), ofNat_eq a (by omega),
        ofNat_eq b (by omega), ofNat_eq c (by omega)]
  | @four a b c d low high first second third fourth =>
      rw [if_neg (by omega), if_neg (by omega), if_neg (by omega), ofNat_eq a (by omega),
        ofNat_eq b (by omega), ofNat_eq c (by omega), ofNat_eq d (by omega)]

/-- A byte below `80` is written for the character of its number alone. -/
theorem Spelled.eq_toNat {value : Nat} {bytes : Bytes} (spelled : Spelled value bytes)
    {byte : UInt8} (member : byte ∈ bytes) (ascii : byte.toNat < 0x80) : value = byte.toNat := by
  cases spelled <;> simp only [List.mem_cons, List.not_mem_nil, or_false] at member <;>
    rcases member with rfl | rfl | rfl | rfl <;> omega

/-- A spelling begins with a byte that continues none. -/
theorem Spelled.first {value : Nat} {bytes : Bytes} (spelled : Spelled value bytes) :
    ∃ byte rest, bytes = byte :: rest ∧ (byte.toNat < 0x80 ∨ 0xbf < byte.toNat) := by
  cases spelled with
  | one high first => exact ⟨_, _, rfl, by omega⟩
  | two low high first second => exact ⟨_, _, rfl, by omega⟩
  | three low high first second third => exact ⟨_, _, rfl, by omega⟩
  | four low high first second third fourth => exact ⟨_, _, rfl, by omega⟩

/-- The other bytes of a spelling do. -/
theorem Spelled.continues {value : Nat} {bytes : Bytes} (spelled : Spelled value bytes) :
    ∀ byte ∈ bytes.tail, 0x80 ≤ byte.toNat ∧ byte.toNat ≤ 0xbf := by
  intro byte member
  cases spelled with
  | one high first => cases member
  | two low high first second =>
      simp only [List.tail_cons, List.mem_cons, List.not_mem_nil, or_false] at member
      subst member
      omega
  | three low high first second third =>
      simp only [List.tail_cons, List.mem_cons, List.not_mem_nil, or_false] at member
      rcases member with rfl | rfl <;> omega
  | four low high first second third fourth =>
      simp only [List.tail_cons, List.mem_cons, List.not_mem_nil, or_false] at member
      rcases member with rfl | rfl | rfl <;> omega

/-- A character is encoded as it is spelled. -/
theorem utf8EncodeChar_spelled (char : Char) : Spelled char.toNat (String.utf8EncodeChar char) := by
  have valid : char.toNat.isValidChar := char.valid
  rcases exists_spelled valid with ⟨bytes, spelled⟩
  have encoded := utf8EncodeChar_of_spelled valid spelled
  rw [Char.ofNat_toNat] at encoded
  exact encoded ▸ spelled

/-! ## Encoded texts -/

theorem encode_append (first second : List Char) :
    encode (first ++ second) = encode first ++ encode second := List.flatMap_append

theorem encode_cons (char : Char) (text : List Char) :
    encode (char :: text) = String.utf8EncodeChar char ++ encode text := List.flatMap_cons

/-- A byte below `80` is in an encoding just if its character is in the text. -/
theorem exists_mem_of_mem_encode {text : List Char} {byte : UInt8} (member : byte ∈ encode text)
    (ascii : byte.toNat < 0x80) : ∃ char ∈ text, char.toNat = byte.toNat := by
  rcases List.mem_flatMap.mp member with ⟨char, inside, written⟩
  exact ⟨char, inside, (utf8EncodeChar_spelled char).eq_toNat written ascii⟩

theorem encode_ne_nil {text : List Char} (nonempty : text ≠ []) : encode text ≠ [] := by
  cases text with
  | nil => exact absurd rfl nonempty
  | cons char text =>
      rcases (utf8EncodeChar_spelled char).first with ⟨byte, rest, split, -⟩
      rw [encode_cons, split]
      exact List.cons_ne_nil _ _

/-! ## The machine, byte by byte -/

/-- The units that the machine reads from a state on. -/
def unitsFrom (state : State) : Bytes -> List (Option Char)
  | [] => finish state
  | byte :: bytes => (step state byte).2 ++ unitsFrom (step state byte).1 bytes

theorem units_eq_unitsFrom (bytes : Bytes) : units bytes = unitsFrom .ground bytes := by
  have onward (reading : Reading) :
      (bytes.foldl Reading.feed reading).units.reverse ++
          finish (bytes.foldl Reading.feed reading).state =
        reading.units.reverse ++ unitsFrom reading.state bytes := by
    induction bytes generalizing reading with
    | nil => rfl
    | cons byte bytes ih =>
        rw [List.foldl_cons, ih]
        simp [Reading.feed, unitsFrom]
  exact onward {}

/-- What a byte between characters leads to, by its number. -/
theorem lead_eq (byte : UInt8) :
    lead byte =
      if byte.toNat < 0x80 then (.ground, [some (Char.ofNat byte.toNat)])
      else if byte.toNat < 0xc2 then (.ground, [none])
      else if byte.toNat < 0xe0 then (.inside 0 0x80 0xbf (byte.toNat % 0x20), [])
      else if byte.toNat = 0xe0 then (.inside 1 0xa0 0xbf 0, [])
      else if byte.toNat = 0xed then (.inside 1 0x80 0x9f (byte.toNat % 0x10), [])
      else if byte.toNat < 0xf0 then (.inside 1 0x80 0xbf (byte.toNat % 0x10), [])
      else if byte.toNat = 0xf0 then (.inside 2 0x90 0xbf 0, [])
      else if byte.toNat < 0xf4 then (.inside 2 0x80 0xbf (byte.toNat % 0x08), [])
      else if byte.toNat = 0xf4 then (.inside 2 0x80 0x8f (byte.toNat % 0x08), [])
      else (.ground, [none]) := by
  simp only [lead, UInt8.lt_iff_toNat_lt, ← UInt8.toNat_inj]
  rfl

variable {low high byte : UInt8} (value : Nat)

theorem within_of_toNat (least : low.toNat ≤ byte.toNat) (most : byte.toNat ≤ high.toNat) :
    low ≤ byte ∧ byte ≤ high :=
  ⟨UInt8.le_iff_toNat_le.mpr least, UInt8.le_iff_toNat_le.mpr most⟩

/-- The last continuation byte that a character owes completes it. -/
theorem step_last (least : low.toNat ≤ byte.toNat) (most : byte.toNat ≤ high.toNat) :
    step (.inside 0 low high value) byte =
      (.ground, [some (Char.ofNat (value * 0x40 + byte.toNat % 0x40))]) := by
  simp only [step, if_pos (within_of_toNat least most)]

/-- Any other one adds its bits. -/
theorem step_inside (owed : Nat) (least : low.toNat ≤ byte.toNat)
    (most : byte.toNat ≤ high.toNat) :
    step (.inside (owed + 1) low high value) byte =
      (.inside owed 0x80 0xbf (value * 0x40 + byte.toNat % 0x40), []) := by
  simp only [step, if_pos (within_of_toNat least most)]

/-- A byte that is not owed ends a malformed piece. -/
theorem none_mem_step (owed : Nat) (outside : ¬ (low ≤ byte ∧ byte ≤ high)) :
    none ∈ (step (.inside owed low high value) byte).2 := by
  simp only [step, if_neg outside, List.mem_cons, true_or]

/-! ## From the table to the machine -/

/-- The first byte of a spelling of three bytes lets its second one follow. -/
theorem lead_three {value : Nat} {a b : UInt8} (valid : value.isValidChar)
    (low : 0x800 ≤ value) (high : value < 0x10000) (first : a.toNat = 0xe0 + value / 0x1000)
    (second : b.toNat = 0x80 + value / 0x40 % 0x40) :
    ∃ least most : UInt8, lead a = (.inside 1 least most (value / 0x1000), []) ∧
      least.toNat ≤ b.toNat ∧ b.toNat ≤ most.toNat := by
  unfold Nat.isValidChar at valid
  rw [lead_eq, if_neg (by omega), if_neg (by omega), if_neg (by omega)]
  by_cases overlong : a.toNat = 0xe0
  · have bits : value / 0x1000 = 0 := by omega
    rw [if_pos overlong, bits]
    exact ⟨0xa0, 0xbf, rfl, show 0xa0 ≤ b.toNat by omega, show b.toNat ≤ 0xbf by omega⟩
  have bits : a.toNat % 0x10 = value / 0x1000 := by omega
  by_cases surrogate : a.toNat = 0xed
  · rw [if_neg overlong, if_pos surrogate, bits]
    exact ⟨0x80, 0x9f, rfl, show 0x80 ≤ b.toNat by omega, show b.toNat ≤ 0x9f by omega⟩
  · rw [if_neg overlong, if_neg surrogate, if_pos (by omega), bits]
    exact ⟨0x80, 0xbf, rfl, show 0x80 ≤ b.toNat by omega, show b.toNat ≤ 0xbf by omega⟩

/-- The first byte of a spelling of four bytes lets its second one follow. -/
theorem lead_four {value : Nat} {a b : UInt8} (low : 0x10000 ≤ value) (high : value < 0x110000)
    (first : a.toNat = 0xf0 + value / 0x40000) (second : b.toNat = 0x80 + value / 0x1000 % 0x40) :
    ∃ least most : UInt8, lead a = (.inside 2 least most (value / 0x40000), []) ∧
      least.toNat ≤ b.toNat ∧ b.toNat ≤ most.toNat := by
  rw [lead_eq, if_neg (by omega), if_neg (by omega), if_neg (by omega), if_neg (by omega),
    if_neg (by omega), if_neg (by omega)]
  by_cases overlong : a.toNat = 0xf0
  · have bits : value / 0x40000 = 0 := by omega
    rw [if_pos overlong, bits]
    exact ⟨0x90, 0xbf, rfl, show 0x90 ≤ b.toNat by omega, show b.toNat ≤ 0xbf by omega⟩
  have bits : a.toNat % 0x08 = value / 0x40000 := by omega
  by_cases inner : a.toNat < 0xf4
  · rw [if_neg overlong, if_pos inner, bits]
    exact ⟨0x80, 0xbf, rfl, show 0x80 ≤ b.toNat by omega, show b.toNat ≤ 0xbf by omega⟩
  · rw [if_neg overlong, if_neg inner, if_pos (by omega), bits]
    exact ⟨0x80, 0x8f, rfl, show 0x80 ≤ b.toNat by omega, show b.toNat ≤ 0x8f by omega⟩

/-- A continuation byte lies in the full range. -/
theorem continuation {byte : UInt8} {bits : Nat} (small : bits < 0x40)
    (same : byte.toNat = 0x80 + bits) :
    (0x80 : UInt8).toNat ≤ byte.toNat ∧ byte.toNat ≤ (0xbf : UInt8).toNat :=
  ⟨show 0x80 ≤ byte.toNat by omega, show byte.toNat ≤ 0xbf by omega⟩

/-- A spelled character is read as that character. -/
theorem unitsFrom_of_spelled {value : Nat} {bytes : Bytes} (valid : value.isValidChar)
    (spelled : Spelled value bytes) (rest : Bytes) :
    unitsFrom .ground (bytes ++ rest) = some (Char.ofNat value) :: unitsFrom .ground rest := by
  have start (byte : UInt8) : step .ground byte = lead byte := rfl
  cases spelled with
  | @one a high first =>
      have read : lead a = (.ground, [some (Char.ofNat value)]) := by
        rw [lead_eq, if_pos (by omega), first]
      simp only [List.cons_append, List.nil_append, unitsFrom, start, read]
  | @two a b low high first second =>
      have read : lead a = (.inside 0 0x80 0xbf (value / 0x40), []) := by
        have bits : a.toNat % 0x20 = value / 0x40 := by omega
        rw [lead_eq, if_neg (by omega), if_neg (by omega), if_pos (by omega), bits]
      have last := continuation (by omega) second
      have number : value / 0x40 * 0x40 + b.toNat % 0x40 = value := by omega
      simp only [List.cons_append, List.nil_append, unitsFrom, start, read,
        step_last _ last.1 last.2, number]
  | @three a b c low high first second third =>
      rcases lead_three valid low high first second with ⟨least, most, read, atLeast, atMost⟩
      have last := continuation (by omega) third
      have number :
          (value / 0x1000 * 0x40 + b.toNat % 0x40) * 0x40 + c.toNat % 0x40 = value := by omega
      simp only [List.cons_append, List.nil_append, unitsFrom, start, read,
        step_inside _ _ atLeast atMost, step_last _ last.1 last.2, number]
  | @four a b c d low high first second third fourth =>
      rcases lead_four low high first second with ⟨least, most, read, atLeast, atMost⟩
      have inner := continuation (by omega) third
      have last := continuation (by omega) fourth
      have number : ((value / 0x40000 * 0x40 + b.toNat % 0x40) * 0x40 + c.toNat % 0x40) * 0x40 +
          d.toNat % 0x40 = value := by omega
      simp only [List.cons_append, List.nil_append, unitsFrom, start, read,
        step_inside _ _ atLeast atMost, step_inside _ _ inner.1 inner.2, step_last _ last.1 last.2,
        number]

/-- An encoded character is read as that character. -/
theorem unitsFrom_utf8EncodeChar (char : Char) (rest : Bytes) :
    unitsFrom .ground (String.utf8EncodeChar char ++ rest) =
      some char :: unitsFrom .ground rest := by
  have read := unitsFrom_of_spelled char.valid (utf8EncodeChar_spelled char) rest
  rwa [show Char.ofNat char.val.toNat = char from Char.ofNat_toNat char] at read

/-- An encoded text is read as its characters. -/
theorem units_encode (text : List Char) : units (encode text) = text.map some := by
  rw [units_eq_unitsFrom]
  induction text with
  | nil => rfl
  | cons char text ih => rw [encode_cons, unitsFrom_utf8EncodeChar, ih, List.map_cons]

/-- Nothing of an encoded text has to be replaced. -/
theorem lossy_encode (text : List Char) : lossy (encode text) = text := by
  rw [lossy, units_encode, List.map_map]
  exact List.map_id text

/-! ## From the machine to the table -/

/-- The bytes taken for a character so far are completed to a spelling by whatever the machine
would accept after them. -/
def Pending (taken : Bytes) : Nat -> UInt8 -> UInt8 -> Nat -> Prop
  | 0, low, high, value => ∀ byte : UInt8, low.toNat ≤ byte.toNat -> byte.toNat ≤ high.toNat ->
      (value * 0x40 + byte.toNat % 0x40).isValidChar ∧
        Spelled (value * 0x40 + byte.toNat % 0x40) (taken ++ [byte])
  | owed + 1, low, high, value =>
      ∀ byte : UInt8, low.toNat ≤ byte.toNat -> byte.toNat ≤ high.toNat ->
        Pending (taken ++ [byte]) owed 0x80 0xbf (value * 0x40 + byte.toNat % 0x40)

/-- What the machine has taken since it last stood between characters. -/
def Holds (taken : Bytes) : State -> Prop
  | .ground => taken = []
  | .inside owed low high value => Pending taken owed low high value

theorem holds_two {a : UInt8} {bits : Nat} (least : 2 ≤ bits) (most : bits < 0x20)
    (first : a.toNat = 0xc0 + bits) : Holds [a] (.inside 0 0x80 0xbf bits) := by
  intro b (bLeast : 0x80 ≤ b.toNat) (bMost : b.toNat ≤ 0xbf)
  refine ⟨?_, .two ?_ ?_ ?_ ?_⟩
  · unfold Nat.isValidChar
    omega
  all_goals omega

/-- The second byte of three keeps out numbers that fit into two bytes, and surrogates. -/
theorem holds_three {a low high : UInt8} {bits : Nat} (small : bits < 0x10)
    (first : a.toNat = 0xe0 + bits) (least : 0x80 ≤ low.toNat) (most : high.toNat ≤ 0xbf)
    (overlong : bits = 0 -> 0xa0 ≤ low.toNat) (surrogate : bits = 0xd -> high.toNat ≤ 0x9f) :
    Holds [a] (.inside 1 low high bits) := by
  intro b bLeast bMost c (cLeast : 0x80 ≤ c.toNat) (cMost : c.toNat ≤ 0xbf)
  refine ⟨?_, .three ?_ ?_ ?_ ?_ ?_⟩
  · unfold Nat.isValidChar
    omega
  all_goals omega

/-- The second byte of four keeps out numbers that fit into three bytes, and those too great. -/
theorem holds_four {a low high : UInt8} {bits : Nat} (small : bits < 5)
    (first : a.toNat = 0xf0 + bits) (least : 0x80 ≤ low.toNat) (most : high.toNat ≤ 0xbf)
    (overlong : bits = 0 -> 0x90 ≤ low.toNat) (beyond : bits = 4 -> high.toNat ≤ 0x8f) :
    Holds [a] (.inside 2 low high bits) := by
  intro b bLeast bMost c (cLeast : 0x80 ≤ c.toNat) (cMost : c.toNat ≤ 0xbf) d
    (dLeast : 0x80 ≤ d.toNat) (dMost : d.toNat ≤ 0xbf)
  refine ⟨?_, .four ?_ ?_ ?_ ?_ ?_ ?_⟩
  · unfold Nat.isValidChar
    omega
  all_goals omega

/-- A byte between characters is a character, is malformed, or begins a character. -/
theorem lead_cases (byte : UInt8) :
    (∃ char, lead byte = (.ground, [some char]) ∧ String.utf8EncodeChar char = [byte]) ∨
      lead byte = (.ground, [none]) ∨
      ∃ state, lead byte = (state, []) ∧ Holds [byte] state := by
  have begins {state : State} (holds : Holds [byte] state) (shape : lead byte = (state, [])) :
      ∃ state, lead byte = (state, []) ∧ Holds [byte] state := ⟨state, shape, holds⟩
  have read := lead_eq byte
  split at read
  · next ascii =>
      have valid : byte.toNat.isValidChar := by
        unfold Nat.isValidChar
        omega
      exact Or.inl ⟨_, read, utf8EncodeChar_of_spelled valid (.one ascii rfl)⟩
  right
  split at read
  · exact Or.inl read
  split at read
  · exact Or.inr (begins (holds_two (by omega) (by omega) (by omega)) read)
  split at read
  · exact Or.inr (begins (holds_three (by omega) (by omega) (by decide) (by decide)
      (fun _ => by decide) (by omega)) read)
  split at read
  · exact Or.inr (begins (holds_three (by omega) (by omega) (by decide) (by decide)
      (by omega) (fun _ => by decide)) read)
  split at read
  · exact Or.inr (begins (holds_three (by omega) (by omega) (by decide) (by decide)
      (by omega) (by omega)) read)
  split at read
  · exact Or.inr (begins (holds_four (by omega) (by omega) (by decide) (by decide)
      (fun _ => by decide) (by omega)) read)
  split at read
  · exact Or.inr (begins (holds_four (by omega) (by omega) (by decide) (by decide)
      (by omega) (by omega)) read)
  split at read
  · exact Or.inr (begins (holds_four (by omega) (by omega) (by decide) (by decide)
      (by omega) (fun _ => by decide)) read)
  · exact Or.inl read

/-- Bytes of which no piece is malformed are the encoding of what is read from them, if those in
front of them are counted that the machine has taken already. -/
theorem encode_unitsFrom {taken bytes : Bytes} {state : State} (holds : Holds taken state)
    (wellFormed : ∀ unit ∈ unitsFrom state bytes, unit ≠ none) :
    encode ((unitsFrom state bytes).filterMap id) = taken ++ bytes := by
  induction bytes generalizing state taken with
  | nil =>
      cases state with
      | ground =>
          have nothing : taken = [] := holds
          rw [nothing]
          rfl
      | inside owed low high value => exact absurd rfl (wellFormed none List.mem_cons_self)
  | cons byte bytes ih =>
      have whole : none ∉ (step state byte).2 :=
        fun member => wellFormed none (List.mem_append_left _ member) rfl
      have onward {next : State} {units : List (Option Char)} (kept : Bytes)
          (read : step state byte = (next, units)) (holds : Holds kept next) :
          encode ((unitsFrom state (byte :: bytes)).filterMap id) =
            encode (units.filterMap id) ++ (kept ++ bytes) := by
        have split : unitsFrom state (byte :: bytes) = units ++ unitsFrom next bytes := by
          rw [unitsFrom, read]
        have later := ih holds (fun unit member =>
          wellFormed unit (split ▸ List.mem_append_right units member))
        rw [split, List.filterMap_append, ← later]
        exact List.flatMap_append
      cases state with
      | ground =>
          have nothing : taken = [] := holds
          rw [nothing]
          rcases lead_cases byte with ⟨char, read, encoded⟩ | malformed | ⟨next, read, begun⟩
          · have single : encode [char] = [byte] := (List.flatMap_singleton _ _).trans encoded
            exact (onward [] read rfl).trans (congrArg (· ++ bytes) single)
          · have broken : none ∈ (lead byte).2 := malformed ▸ List.mem_cons_self
            exact absurd broken whole
          · exact onward [byte] read begun
      | inside owed low high value =>
          by_cases within : low ≤ byte ∧ byte ≤ high
          · have least := UInt8.le_iff_toNat_le.mp within.1
            have most := UInt8.le_iff_toNat_le.mp within.2
            cases owed with
            | zero =>
                have complete := holds byte least most
                have encoded := utf8EncodeChar_of_spelled complete.1 complete.2
                have written := onward [] (step_last value least most) rfl
                refine written.trans ?_
                rw [List.nil_append, List.append_cons, ← encoded]
                exact congrArg (· ++ bytes) (List.flatMap_singleton _ _)
            | succ owed =>
                have further := onward (taken ++ [byte]) (step_inside value owed least most)
                  (holds byte least most)
                exact further.trans (List.append_cons taken byte bytes).symm
          · exact absurd (none_mem_step value owed within) whole

/-- If a character is read first, the bytes begin with its encoding. -/
theorem encoding_prefix_of_unitsFrom {taken bytes : Bytes} {state : State} {char : Char}
    {units : List (Option Char)} (holds : Holds taken state)
    (first : unitsFrom state bytes = some char :: units) :
    String.utf8EncodeChar char <+: taken ++ bytes := by
  induction bytes generalizing state taken with
  | nil =>
      cases state with
      | ground => cases first
      | inside owed low high value => cases first
  | cons byte bytes ih =>
      have onward {next : State} (read : step state byte = (next, []))
          (holds : Holds (taken ++ [byte]) next) :
          String.utf8EncodeChar char <+: taken ++ byte :: bytes := by
        rw [unitsFrom, read] at first
        rw [List.append_cons]
        exact ih holds first
      have complete {other : Char} (read : step state byte = (.ground, [some other]))
          (encoded : String.utf8EncodeChar other = taken ++ [byte]) :
          String.utf8EncodeChar char <+: taken ++ byte :: bytes := by
        rw [unitsFrom, read] at first
        have same : other = char := Option.some.inj (List.cons.inj first).1
        rw [List.append_cons, ← same, encoded]
        exact List.prefix_append _ bytes
      cases state with
      | ground =>
          have nothing : taken = [] := holds
          subst nothing
          rcases lead_cases byte with ⟨other, read, encoded⟩ | malformed | ⟨next, read, begun⟩
          · exact complete read encoded
          · rw [unitsFrom, show step .ground byte = (.ground, [none]) from malformed] at first
            cases (List.cons.inj first).1
          · exact onward read begun
      | inside owed low high value =>
          by_cases within : low ≤ byte ∧ byte ≤ high
          · have least := UInt8.le_iff_toNat_le.mp within.1
            have most := UInt8.le_iff_toNat_le.mp within.2
            cases owed with
            | zero =>
                have spelled := holds byte least most
                exact complete (step_last value least most)
                  (utf8EncodeChar_of_spelled spelled.1 spelled.2)
            | succ owed =>
                exact onward (step_inside value owed least most) (holds byte least most)
          · simp only [unitsFrom, step, if_neg within] at first
            cases (List.cons.inj first).1

/-- A character is read first just if the bytes begin with its encoding. -/
theorem head?_units_eq_some_iff (bytes : Bytes) (char : Char) :
    (units bytes).head? = some (some char) ↔ String.utf8EncodeChar char <+: bytes := by
  rw [units_eq_unitsFrom]
  constructor
  · intro first
    cases read : unitsFrom .ground bytes with
    | nil =>
        rw [read] at first
        cases first
    | cons unit units =>
        rw [read] at first
        cases first
        exact encoding_prefix_of_unitsFrom (show Holds [] .ground from rfl) read
  · rintro ⟨rest, split⟩
    rw [← split, unitsFrom_utf8EncodeChar]
    rfl

/-- A byte string has a text just if it is the encoding of that text. -/
theorem decode?_eq_some_iff (bytes : Bytes) (text : List Char) :
    decode? bytes = some text ↔ bytes = encode text := by
  have kept (text : List Char) : (text.map some).filterMap id = text := by
    rw [List.filterMap_map]
    exact List.filterMap_some
  constructor
  · intro decoded
    simp only [decode?] at decoded
    split at decoded
    · next wellFormed =>
        cases decoded
        rw [units_eq_unitsFrom] at wellFormed ⊢
        refine (encode_unitsFrom (show Holds [] .ground from rfl) ?_).symm
        intro unit member malformed
        have read := List.all_eq_true.mp wellFormed unit member
        rw [malformed] at read
        cases read
    · cases decoded
  · rintro rfl
    unfold decode?
    rw [units_encode, if_pos (by simp), kept]

/-- Whether a byte string is the encoding of a text. -/
def IsEncoding (bytes : Bytes) : Prop := ∃ text, bytes = encode text

theorem isEncoding_iff (bytes : Bytes) : IsEncoding bytes ↔ (decode? bytes).isSome = true := by
  rw [Option.isSome_iff_exists]
  exact exists_congr (fun text => (decode?_eq_some_iff bytes text).symm)

instance : DecidablePred IsEncoding :=
  fun bytes => decidable_of_iff _ (isEncoding_iff bytes).symm

/-- An encoding can be got back from the way it is shown. -/
theorem encode_lossy {bytes : Bytes} (valid : IsEncoding bytes) : encode (lossy bytes) = bytes := by
  rcases valid with ⟨text, rfl⟩
  rw [lossy_encode]

end Utf8
end Text
end AstLink
