import AstLink.Stream.Source
import Mathlib.Data.Nat.Find

namespace AstLink
namespace Stream

/-!
What a source says, apart from when and in which portions it says it.

A source hands on bytes, and now and then the end of the stream for one call: a mark.  After its
script it hands on nothing but marks.  The endless sequence of these is its signal.  Where the bytes
are cut into portions and which calls are broken off is not part of it.

A relay of lines stops at the first mark that is met with no line begun.  The bytes before that
place, and the segments into which newlines and marks cut them, are functions of the signal.
-/

/-- What a source hands on next. -/
inductive Token where
  | byte (value : UInt8)
  /-- The end of the stream, for one call. -/
  | mark
  deriving DecidableEq, Repr

namespace Token

/-- Bytes that are handed on in one step.  No bytes are a mark. -/
def ofBytes (bytes : Bytes) : List Token :=
  if bytes = [] then [.mark] else bytes.map .byte

/-- The byte of a token, if it is one. -/
def byte? : Token -> Option UInt8
  | .byte value => some value
  | .mark => none

/-- Whether no line is begun after a token. -/
def endsLine : Token -> Bool
  | .byte value => value = Bytes.newline
  | .mark => true

/-- The bytes among tokens. -/
def data (tokens : List Token) : Bytes := tokens.filterMap byte?

/-- The segments into which tokens are cut, after each newline and at each mark.  `begun` is the
beginning of the first. -/
def segmentsFrom (begun : Bytes) : List Token -> List Bytes
  | [] => [begun]
  | .mark :: tokens => begun :: segmentsFrom [] tokens
  | .byte value :: tokens =>
      if value = Bytes.newline then (begun ++ [value]) :: segmentsFrom [] tokens
      else segmentsFrom (begun ++ [value]) tokens

/-- The segments that hold a byte. -/
def lines (tokens : List Token) : List Bytes :=
  (segmentsFrom [] tokens).filter (fun segment => !segment.isEmpty)

end Token

/-- An endless sequence of tokens.  From some place on there are only marks. -/
structure Signal where
  get : Nat -> Token
  quiet : ∃ start, ∀ place, start ≤ place -> get place = .mark

namespace Signal

/-- Whether no line is begun at a place. -/
def isFresh (signal : Signal) : Nat -> Bool
  | 0 => true
  | place + 1 => (signal.get place).endsLine

/-- Whether a relay stops at a place: it meets a mark with no line begun. -/
def Stops (signal : Signal) (place : Nat) : Prop :=
  signal.get place = .mark ∧ signal.isFresh place = true

instance (signal : Signal) : DecidablePred signal.Stops :=
  fun _ => inferInstanceAs (Decidable (_ ∧ _))

/-- Of two marks in a row the second is met with no line begun. -/
theorem exists_stops (signal : Signal) : ∃ place, signal.Stops place := by
  rcases signal.quiet with ⟨start, quiet⟩
  refine ⟨start + 1, quiet _ (Nat.le_succ start), ?_⟩
  simp [isFresh, quiet start (Nat.le_refl start), Token.endsLine]

/-- The first place at which a relay stops. -/
def stop (signal : Signal) : Nat := Nat.find signal.exists_stops

/-- Everything before that place. -/
def heard (signal : Signal) : List Token := (List.range signal.stop).map signal.get

/-- The bytes before that place. -/
def data (signal : Signal) : Bytes := Token.data signal.heard

/-- The segments before that place, those without a byte left out. -/
def lines (signal : Signal) : List Bytes := Token.lines signal.heard

/-- Tokens, and marks ever after. -/
def ofTokens (tokens : List Token) : Signal where
  get place := tokens.getD place .mark
  quiet := ⟨tokens.length, fun place beyond => by simp [List.getD, beyond]⟩

end Signal

namespace Source

/-- What one step of a source hands on.  A call that fails hands on nothing. -/
def Step.tokens : Step -> List Token
  | .data bytes => Token.ofBytes bytes
  | .fault _ => []

/-- What a script hands on. -/
def tokens (steps : List Step) : List Token := steps.flatMap Step.tokens

/-- The signal of a source. -/
def signal (steps : List Step) : Signal := Signal.ofTokens (tokens steps)

/-- The bytes that one step makes available. -/
def Step.bytes : Step -> Bytes
  | .data bytes => bytes
  | .fault _ => []

/-- All bytes of a script. -/
def bytes (steps : List Step) : Bytes := steps.flatMap Step.bytes

/-- A script with a mark nowhere in it hands on its bytes. -/
theorem tokens_eq_map_byte (steps : List Step) (unmarked : .data [] ∉ steps) :
    tokens steps = (bytes steps).map Token.byte := by
  induction steps with
  | nil => rfl
  | cons step steps ih =>
      have others := ih (fun member => unmarked (List.mem_cons_of_mem _ member))
      have first : step.tokens = step.bytes.map Token.byte := by
        cases step with
        | fault fault => rfl
        | data bytes =>
            have nonempty : bytes ≠ [] := fun empty => unmarked (empty ▸ List.mem_cons_self)
            exact if_neg nonempty
      unfold tokens bytes
      rw [List.flatMap_cons, List.flatMap_cons, List.map_append]
      exact congrArg₂ (· ++ ·) first others

end Source

/-! ## The part that is heard -/

namespace Token

/-- Tokens up to the stop of a relay.  `fresh` says whether no line is begun before them. -/
def untilStop (fresh : Bool) : List Token -> List Token
  | [] => if fresh then [] else [.mark]
  | token :: tokens =>
      if fresh ∧ token = .mark then [] else token :: untilStop token.endsLine tokens

/-- Whether no line is begun at a place among tokens. -/
def isFreshAt (fresh : Bool) (tokens : List Token) : Nat -> Bool
  | 0 => fresh
  | place + 1 => (tokens.getD place .mark).endsLine

theorem isFreshAt_cons (fresh : Bool) (token : Token) (tokens : List Token) (place : Nat) :
    isFreshAt fresh (token :: tokens) (place + 1) = isFreshAt token.endsLine tokens place := by
  cases place with
  | zero => rfl
  | succ place => rfl

/-- The part up to the stop is where it should be. -/
theorem untilStop_eq_map_range (fresh : Bool) (tokens : List Token) :
    untilStop fresh tokens =
      (List.range (untilStop fresh tokens).length).map (fun place => tokens.getD place .mark) := by
  induction tokens generalizing fresh with
  | nil => cases fresh <;> rfl
  | cons token tokens ih =>
      unfold untilStop
      split
      · rfl
      · rw [List.length_cons, List.range_succ_eq_map, List.map_cons, List.map_map]
        exact congrArg (List.cons token) (ih token.endsLine)

/-- What follows that part is the first mark that is met with no line begun. -/
theorem untilStop_length_least (fresh : Bool) (tokens : List Token) :
    (tokens.getD (untilStop fresh tokens).length .mark = .mark ∧
      isFreshAt fresh tokens (untilStop fresh tokens).length = true) ∧
    ∀ place < (untilStop fresh tokens).length,
      ¬ (tokens.getD place .mark = .mark ∧ isFreshAt fresh tokens place = true) := by
  induction tokens generalizing fresh with
  | nil =>
      cases fresh with
      | true => exact ⟨⟨rfl, rfl⟩, fun place below => absurd below (Nat.not_lt_zero place)⟩
      | false =>
          refine ⟨⟨rfl, rfl⟩, fun place below => ?_⟩
          have first : place = 0 := Nat.lt_one_iff.mp below
          rw [first]
          exact fun stops => nomatch stops.2
  | cons token tokens ih =>
      unfold untilStop
      split
      · rename_i stops
        exact ⟨⟨stops.2, stops.1⟩, fun place below => absurd below (Nat.not_lt_zero place)⟩
      · rename_i goesOn
        have later := ih token.endsLine
        rw [List.length_cons, isFreshAt_cons]
        refine ⟨later.1, fun place below => ?_⟩
        cases place with
        | zero => exact fun stops => goesOn ⟨stops.2, stops.1⟩
        | succ place =>
            rw [isFreshAt_cons]
            exact later.2 place (Nat.lt_of_succ_lt_succ below)

/-- Cutting neither adds nor drops a byte. -/
theorem flatten_segmentsFrom (begun : Bytes) (tokens : List Token) :
    (segmentsFrom begun tokens).flatten = begun ++ data tokens := by
  induction tokens generalizing begun with
  | nil => rfl
  | cons token tokens ih =>
      cases token with
      | mark =>
          rw [segmentsFrom, List.flatten_cons, ih]
          rfl
      | byte value =>
          have front : data (.byte value :: tokens) = value :: data tokens := rfl
          unfold segmentsFrom
          split
          · rw [List.flatten_cons, ih, front, List.append_assoc]
            rfl
          · rw [ih, front, List.append_assoc]
            rfl

theorem flatten_lines (tokens : List Token) : (lines tokens).flatten = data tokens := by
  rw [lines, List.flatten_filter_not_isEmpty, flatten_segmentsFrom]
  rfl

end Token

namespace Signal

theorem stop_ofTokens (tokens : List Token) :
    (ofTokens tokens).stop = (Token.untilStop true tokens).length := by
  have fresh (place : Nat) :
      (ofTokens tokens).isFresh place = Token.isFreshAt true tokens place := by
    cases place with
    | zero => rfl
    | succ place => rfl
  have least := Token.untilStop_length_least true tokens
  apply (Nat.find_eq_iff _).mpr
  constructor
  · exact ⟨least.1.1, (fresh _).trans least.1.2⟩
  · intro place below stops
    exact least.2 place below ⟨stops.1, (fresh place).symm.trans stops.2⟩

/-- What is heard of finitely many tokens and the marks after them. -/
theorem heard_ofTokens (tokens : List Token) :
    (ofTokens tokens).heard = Token.untilStop true tokens := by
  rw [heard, stop_ofTokens]
  exact (Token.untilStop_eq_map_range true tokens).symm

end Signal

/-! ## The bytes of a script -/

theorem Token.data_ofBytes (bytes : Bytes) : Token.data (Token.ofBytes bytes) = bytes := by
  unfold Token.ofBytes
  split
  · rename_i empty
    exact empty.symm
  · simp [Token.data, List.filterMap_map, Function.comp_def, Token.byte?]

/-- The bytes among the tokens of a script are its bytes. -/
theorem Source.data_tokens (steps : List Source.Step) :
    Token.data (Source.tokens steps) = Source.bytes steps := by
  induction steps with
  | nil => rfl
  | cons step steps ih =>
      have first : Token.data step.tokens = step.bytes := by
        cases step with
        | data bytes => exact Token.data_ofBytes bytes
        | fault fault => rfl
      unfold Source.tokens Source.bytes
      rw [List.flatMap_cons, List.flatMap_cons, Token.data, List.filterMap_append]
      exact congrArg₂ (· ++ ·) first ih

/-- What is heard comes from the script, but for a last mark. -/
theorem Token.untilStop_prefix (fresh : Bool) (tokens : List Token) :
    Token.untilStop fresh tokens <+: tokens ++ [.mark] := by
  induction tokens generalizing fresh with
  | nil =>
      cases fresh with
      | true => exact List.nil_prefix
      | false => exact List.prefix_rfl
  | cons token tokens ih =>
      unfold Token.untilStop
      split
      · exact List.nil_prefix
      · exact List.cons_prefix_cons.mpr ⟨rfl, ih _⟩

/-- The lines of a signal are pieces of the bytes of its source, one behind the other from the
beginning on. -/
theorem Source.flatten_lines_prefix (steps : List Source.Step) :
    (Source.signal steps).lines.flatten <+: Source.bytes steps := by
  have heard := Token.untilStop_prefix true (Source.tokens steps)
  have data := heard.filterMap Token.byte?
  have last : [Token.mark].filterMap Token.byte? = [] := rfl
  rw [List.filterMap_append, last, List.append_nil] at data
  rw [Signal.lines, Token.flatten_lines, Source.signal, Signal.heard_ofTokens, ← data_tokens]
  exact data

end Stream
end AstLink
