import AstLink.Proofs.Lists
import AstLink.Proofs.Stream.Answers
import AstLink.Proofs.Stream.Signal

namespace AstLink
namespace Stream

/-!
The readings that a buffered source serves deliver the lines of its signal.

The source answers call by call.  As long as no call fails for good, its answers matter only by the
tokens that they hand on, so the readings deliver the same lines for every size of the buffer, for
every division of the bytes into portions, and wherever calls are broken off.  The calls made for
them end with the mark at which the signal stops.
-/

namespace Token

/-- What an answer hands on. -/
def ofAnswer : Except Fault Bytes -> List Token
  | .ok bytes => ofBytes bytes
  | .error _ => []

/-- What answers hand on. -/
def ofAnswers (answers : List (Except Fault Bytes)) : List Token := answers.flatMap ofAnswer

/-! ## Lines, token by token -/

/-- The lines of tokens up to the stop of a relay, `begun` being the beginning of the first. -/
def linesFrom (begun : Bytes) (tokens : List Token) : List Bytes :=
  (segmentsFrom begun (untilStop begun.isEmpty tokens)).filter (fun segment => !segment.isEmpty)

theorem linesFrom_nil : linesFrom [] [] = [] := rfl

theorem linesFrom_nil_of_held {begun : Bytes} (held : begun ≠ []) :
    linesFrom begun [] = [begun] := by
  simp [linesFrom, untilStop, segmentsFrom, held]

theorem linesFrom_mark {begun : Bytes} (held : begun ≠ []) (tokens : List Token) :
    linesFrom begun (.mark :: tokens) = begun :: linesFrom [] tokens := by
  simp [linesFrom, untilStop, segmentsFrom, endsLine, held]

theorem linesFrom_newline (begun : Bytes) (tokens : List Token) :
    linesFrom begun (.byte Bytes.newline :: tokens) =
      (begun ++ [Bytes.newline]) :: linesFrom [] tokens := by
  simp [linesFrom, untilStop, segmentsFrom, endsLine]

theorem linesFrom_byte {byte : UInt8} (other : byte ≠ Bytes.newline) (begun : Bytes)
    (tokens : List Token) :
    linesFrom begun (.byte byte :: tokens) = linesFrom (begun ++ [byte]) tokens := by
  have held : (begun ++ [byte]).isEmpty = false := by simp
  simp [linesFrom, untilStop, segmentsFrom, endsLine, other, held]

/-- Bytes in a row have the lines that they finish, and carry on the line begun after those. -/
theorem linesFrom_bytes (begun bytes : Bytes) (tokens : List Token) :
    linesFrom begun (bytes.map Token.byte ++ tokens) =
      finished begun bytes ++ linesFrom (carried begun bytes) tokens := by
  induction bytes generalizing begun with
  | nil => simp
  | cons byte bytes ih =>
      rw [List.map_cons, List.cons_append]
      by_cases newline : byte = Bytes.newline
      · rw [newline, linesFrom_newline, ih, finished_newline, carried_newline, List.cons_append]
      · rw [linesFrom_byte newline, ih, finished_byte newline, carried_byte newline]

/-- No relay stops among bytes. -/
theorem untilStop_bytes (begun bytes : Bytes) (tokens : List Token) :
    untilStop begun.isEmpty (bytes.map Token.byte ++ tokens) =
      bytes.map Token.byte ++ untilStop (carried begun bytes).isEmpty tokens := by
  induction bytes generalizing begun with
  | nil => simp
  | cons byte bytes ih =>
      have goesOn : ¬ (begun.isEmpty = true ∧ Token.byte byte = .mark) := by
        rintro ⟨_, impossible⟩
        cases impossible
      rw [List.map_cons, List.cons_append, List.cons_append]
      by_cases newline : byte = Bytes.newline
      · have fresh : (Token.byte byte).endsLine = ([] : Bytes).isEmpty := by
          simp [endsLine, newline]
        rw [untilStop, if_neg goesOn, fresh, ih, newline, carried_newline]
      · have held : (Token.byte byte).endsLine = (begun ++ [byte]).isEmpty := by
          simp [endsLine, newline]
        rw [untilStop, if_neg goesOn, held, ih, carried_byte newline]

end Token

/-! ## Readings, answer by answer -/

/-- What becomes of answers that are read after a line begun, for which `events` were called
already: readings without a fault, which deliver the lines of the answers and call for those up to
the mark at which a relay stops. -/
structure Delivered (events : List Event) (begun : Bytes) (answers : List (Except Fault Bytes))
    (reads : List LineRead) : Prop where
  whole : LineRead.breaking? reads = none
  lines : LineRead.lines reads = Token.linesFrom begun (Token.ofAnswers answers)
  calls : ∃ taken, LineRead.calls reads = events ++ (taken ++ [.ok []]).map Source.event ∧
    taken ++ [.ok []] <+: answers ++ [.ok [], .ok []] ∧
    Token.ofAnswers taken = Token.untilStop begun.isEmpty (Token.ofAnswers answers)

/-- One more answer in front.  It finishes the lines `done` after the line begun and leaves `next`
begun; of the calls made by then, `spent` belong to readings that it completes. -/
theorem Delivered.cons {events kept : List Event} {begun next : Bytes}
    {answer : Except Fault Bytes} {answers : List (Except Fault Bytes)}
    {reads later : List LineRead} (delivered : Delivered kept next answers later)
    (done : List Bytes) (spent : List Event)
    (front : LineRead.lines reads = done ++ LineRead.lines later ∧
      LineRead.breaking? reads = LineRead.breaking? later ∧
      LineRead.calls reads = spent ++ LineRead.calls later)
    (called : spent ++ kept = events ++ [Source.event answer])
    (lines : ∀ tokens, Token.linesFrom begun (Token.ofAnswer answer ++ tokens) =
      done ++ Token.linesFrom next tokens)
    (heard : ∀ tokens, Token.untilStop begun.isEmpty (Token.ofAnswer answer ++ tokens) =
      Token.ofAnswer answer ++ Token.untilStop next.isEmpty tokens) :
    Delivered events begun (answer :: answers) reads := by
  rcases delivered.calls with ⟨taken, calls, isPrefix, tokens⟩
  have split (more : List (Except Fault Bytes)) :
      Token.ofAnswers (answer :: more) = Token.ofAnswer answer ++ Token.ofAnswers more :=
    List.flatMap_cons
  refine ⟨front.2.1.trans delivered.whole, ?_, answer :: taken, ?_, ?_, ?_⟩
  · rw [front.1, delivered.lines, split, lines]
  · rw [front.2.2, calls, ← List.append_assoc, called, List.append_assoc]
    rfl
  · exact List.cons_prefix_cons.mpr ⟨rfl, isPrefix⟩
  · rw [split, split, tokens, heard]

/-- The reading of one line in front of others. -/
theorem LineRead.append_line (events : List Event) {line : Bytes} (nonempty : line ≠ [])
    (reads : List LineRead) :
    LineRead.lines (⟨events, line, none⟩ :: reads) = [line] ++ LineRead.lines reads ∧
      LineRead.breaking? (⟨events, line, none⟩ :: reads) = LineRead.breaking? reads ∧
      LineRead.calls (⟨events, line, none⟩ :: reads) = events ++ LineRead.calls reads := by
  have delivering : ∀ read ∈ [(⟨events, line, none⟩ : LineRead)],
      read.fault = none ∧ read.line ≠ [] := by
    intro read member
    rw [List.mem_singleton.mp member]
    exact ⟨rfl, nonempty⟩
  simpa using LineRead.append_of_lines reads delivering

/-- After the script a line begun is ended, and the relay stops. -/
theorem lineReadsFrom_nil_delivered (events : List Event) (begun : Bytes) :
    Delivered events begun [] (lineReadsFrom events begun []) := by
  have last (earlier : List Event) :
      LineRead.calls [⟨earlier ++ [.read (.ok 0)], [], none⟩] =
        earlier ++ [Source.event (.ok [])] := List.append_nil _
  unfold lineReadsFrom
  by_cases held : begun = []
  · subst held
    exact ⟨rfl, rfl, [], last events, List.prefix_append _ _, rfl⟩
  · have front := LineRead.append_line (events ++ [.read (.ok 0)]) held
      [⟨[.read (.ok 0)], [], none⟩]
    simp only [List.isEmpty_iff, held, if_false]
    refine ⟨front.2.1, ?_, [.ok []], ?_, List.prefix_rfl, ?_⟩
    · rw [front.1, show Token.ofAnswers [] = [] from rfl, Token.linesFrom_nil_of_held held]
      rfl
    · rw [front.2.2, show LineRead.calls [⟨[.read (.ok 0)], [], none⟩] = _ from last [],
        List.append_assoc]
      rfl
    · simp [Token.ofAnswers, Token.ofAnswer, Token.ofBytes, Token.untilStop, held]

/-- The readings served from answers of which none fails for good. -/
theorem lineReadsFrom_delivered (answers : List (Except Fault Bytes))
    (passing : ∀ fault, .error fault ∈ answers -> fault.isInterrupted = true)
    (events : List Event) (begun : Bytes) :
    Delivered events begun answers (lineReadsFrom events begun answers) := by
  -- Which calls are still to be assigned to a reading changes with the line begun.
  induction answers generalizing events begun with
  | nil => exact lineReadsFrom_nil_delivered events begun
  | cons answer answers ih =>
      have others := ih (fun fault member => passing fault (List.mem_cons_of_mem _ member))
      cases answer with
      | error fault =>
          rw [lineReadsFrom_interrupted (passing fault List.mem_cons_self)]
          exact (others _ begun).cons [] [] ⟨rfl, rfl, rfl⟩ rfl (fun _ => rfl) (fun _ => rfl)
      | ok bytes =>
          by_cases empty : bytes = []
          · subst empty
            by_cases held : begun = []
            · subst held
              rw [lineReadsFrom_end]
              exact ⟨rfl, rfl, [], List.append_nil _, List.prefix_append _ _, rfl⟩
            · rw [lineReadsFrom_held held]
              refine (others [] []).cons [begun] _ (LineRead.append_line _ held _)
                (List.append_nil _) (fun tokens => Token.linesFrom_mark held tokens) ?_
              intro tokens
              simp [Token.ofAnswer, Token.ofBytes, Token.untilStop, Token.endsLine, held]
          · rw [lineReadsFrom_data empty]
            have handed : Token.ofAnswer (.ok bytes) = bytes.map Token.byte := if_neg empty
            refine (others _ (carried begun bytes)).cons (finished begun bytes) _
              (append_completed _ begun bytes _) ?_ ?_ ?_
            · split
              · rfl
              · exact List.append_nil _
            · exact fun tokens => handed ▸ Token.linesFrom_bytes begun bytes tokens
            · exact fun tokens => handed ▸ Token.untilStop_bytes begun bytes tokens

/-! ## Answers and the steps that they serve -/

/-- Cutting into pieces hands on the same. -/
theorem ofBytes_pieces {size : Nat} (positive : 0 < size) (bytes : Bytes) :
    (pieces size bytes).flatMap Token.ofBytes = Token.ofBytes bytes := by
  induction bytes using pieces.induct size with
  | case1 bytes fits =>
      have short : bytes.length ≤ size := fits.resolve_left (Nat.ne_of_gt positive)
      rw [pieces, dif_pos fits, List.take_of_length_le short, List.flatMap_singleton]
  | case2 bytes fits ih =>
      have long : size < bytes.length := by omega
      have first : bytes.take size ≠ [] := by
        rw [Ne, List.take_eq_nil_iff]
        rintro (none | empty)
        · omega
        · simp [empty] at long
      have others : bytes.drop size ≠ [] := by
        rw [Ne, List.drop_eq_nil_iff]
        omega
      have nonempty : bytes ≠ [] := fun empty => by simp [empty] at long
      rw [pieces, dif_neg fits, List.flatMap_cons, ih]
      simp only [Token.ofBytes, first, others, nonempty, if_false]
      rw [← List.map_append, List.take_append_drop]

/-- No piece of some bytes is empty. -/
theorem ne_nil_of_mem_pieces {size : Nat} (positive : 0 < size) {bytes : Bytes}
    (nonempty : bytes ≠ []) {piece : Bytes} (member : piece ∈ pieces size bytes) : piece ≠ [] := by
  have notMark : Token.mark ∉ (pieces size bytes).flatMap Token.ofBytes := by
    rw [ofBytes_pieces positive, Token.ofBytes, if_neg nonempty]
    intro impossible
    rcases List.mem_map.mp impossible with ⟨_, _, equal⟩
    cases equal
  intro empty
  exact notMark (List.mem_flatMap.mpr ⟨piece, member, by simp [Token.ofBytes, empty]⟩)

/-- Cutting into pieces keeps the bytes. -/
theorem flatten_pieces {size : Nat} (positive : 0 < size) (bytes : Bytes) :
    (pieces size bytes).flatten = bytes := by
  induction bytes using pieces.induct size with
  | case1 bytes fits =>
      have short : bytes.length ≤ size := fits.resolve_left (Nat.ne_of_gt positive)
      rw [pieces, dif_pos fits, List.flatten_singleton, List.take_of_length_le short]
  | case2 bytes fits ih =>
      rw [pieces, dif_neg fits, List.flatten_cons, ih, List.take_append_drop]

/-- A mark is served as a mark. -/
theorem answers_mark (capacity : Nat) :
    Source.Step.answers capacity (.data []) = [.ok []] := by
  simp [Source.Step.answers, pieces]

/-- The answers of a source hand on what its script does, whatever the size of the buffer. -/
theorem ofAnswers_answers {capacity : Nat} (positive : 0 < capacity) (steps : List Source.Step) :
    Token.ofAnswers (Source.answers capacity steps) = Source.tokens steps := by
  induction steps with
  | nil => rfl
  | cons step steps ih =>
      have first : Token.ofAnswers (Source.Step.answers capacity step) = step.tokens := by
        cases step with
        | data bytes =>
            rw [Source.Step.answers, Token.ofAnswers, List.flatMap_map]
            exact ofBytes_pieces positive bytes
        | fault fault => rfl
      unfold Source.answers Source.tokens
      rw [List.flatMap_cons, List.flatMap_cons, Token.ofAnswers, List.flatMap_append]
      exact congrArg₂ (· ++ ·) first ih

/-- Only a call that fails gives a fault. -/
theorem fault_mem_of_answers {capacity : Nat} {steps : List Source.Step} {fault : Fault}
    (member : .error fault ∈ Source.answers capacity steps) : .fault fault ∈ steps := by
  rcases List.mem_flatMap.mp member with ⟨step, stepMember, answered⟩
  cases step with
  | data bytes =>
      rcases List.mem_map.mp answered with ⟨_, _, impossible⟩
      cases impossible
  | fault reason =>
      cases List.mem_singleton.mp answered
      exact stepMember

theorem brought_append (first second : List (Except Fault Bytes)) :
    brought (first ++ second) = brought first ++ brought second := by
  induction first with
  | nil => rfl
  | cons answer first ih =>
      cases answer with
      | error fault => exact ih
      | ok bytes => simp only [List.cons_append, brought, ih, List.append_assoc]

theorem brought_map_ok (portions : List Bytes) :
    brought (portions.map Except.ok) = portions.flatten := by
  induction portions with
  | nil => rfl
  | cons portion portions ih => simp only [List.map_cons, brought, ih, List.flatten_cons]

/-- The answers of a source bring the bytes of its script. -/
theorem brought_answers {capacity : Nat} (positive : 0 < capacity) (steps : List Source.Step) :
    brought (Source.answers capacity steps) = Source.bytes steps := by
  induction steps with
  | nil => rfl
  | cons step steps ih =>
      have first : brought (step.answers capacity) = step.bytes := by
        cases step with
        | data bytes =>
            rw [Source.Step.answers, brought_map_ok, flatten_pieces positive]
            rfl
        | fault fault => rfl
      unfold Source.answers Source.bytes
      rw [List.flatMap_cons, List.flatMap_cons, brought_append, first]
      exact congrArg (step.bytes ++ ·) ih

/-- Only a mark is answered with no bytes. -/
theorem mark_mem_of_answers {capacity : Nat} (positive : 0 < capacity) {steps : List Source.Step}
    (member : .ok [] ∈ Source.answers capacity steps) : .data [] ∈ steps := by
  rcases List.mem_flatMap.mp member with ⟨step, stepMember, answered⟩
  cases step with
  | fault fault => cases List.mem_singleton.mp answered
  | data bytes =>
      rcases List.mem_map.mp answered with ⟨piece, pieceMember, equal⟩
      by_cases empty : bytes = []
      · exact empty ▸ stepMember
      · exact absurd (Except.ok.inj equal) (ne_nil_of_mem_pieces positive empty pieceMember)

namespace Event

/-- How many bytes the source handed on in a call. -/
def gain : Event -> Nat
  | .read (.ok count) => count
  | _ => 0

/-- How many bytes it handed on in some calls. -/
def received : List Event -> Nat
  | [] => 0
  | event :: events => gain event + received events

theorem received_append (first second : List Event) :
    received (first ++ second) = received first + received second := by
  induction first with
  | nil => exact (Nat.zero_add _).symm
  | cons event first ih => rw [List.cons_append, received, ih, received, Nat.add_assoc]

/-- Calls of the writer bring no bytes. -/
theorem gain_of_isWriter {event : Event} (writing : event.isWriter = true) : gain event = 0 := by
  cases event with
  | read answer => cases writing
  | readLine held answer => rfl
  | write offered answer => rfl
  | flush answer => rfl

theorem received_of_isWriter {events : List Event}
    (writing : ∀ event ∈ events, event.isWriter = true) : received events = 0 := by
  induction events with
  | nil => rfl
  | cons event events ih =>
      rw [received, gain_of_isWriter (writing event List.mem_cons_self),
        ih (fun other member => writing other (List.mem_cons_of_mem _ member))]

/-- So the source's own calls are as good as all of them. -/
theorem received_filter (events : List Event) :
    received (events.filter (fun event => !event.isWriter)) = received events := by
  induction events with
  | nil => rfl
  | cons event events ih =>
      cases writer : event.isWriter with
      | true =>
          have none : gain event = 0 := gain_of_isWriter writer
          rw [List.filter_cons_of_neg (by simp [writer]), ih, received, none, Nat.zero_add]
      | false => rw [List.filter_cons_of_pos (by simp [writer]), received, ih, received]

theorem received_map_event (answers : List (Except Fault Bytes)) :
    received (answers.map Source.event) = (brought answers).length := by
  induction answers with
  | nil => rfl
  | cons answer answers ih =>
      cases answer with
      | error fault => exact (Nat.zero_add _).trans ih
      | ok bytes => rw [brought, List.length_append, ← ih]; rfl

end Event

/-- Answers that end with a mark serve the steps up to the one which is that mark. -/
theorem exists_steps_of_answers {capacity : Nat} (positive : 0 < capacity)
    {taken : List (Except Fault Bytes)} (steps : List Source.Step)
    (isPrefix : taken ++ [.ok []] <+: Source.answers capacity steps) :
    ∃ before, before ++ [.data []] <+: steps ∧ Source.answers capacity before = taken := by
  induction steps generalizing taken with
  | nil => exact absurd (List.prefix_nil.mp isPrefix) (by simp)
  | cons step steps ih =>
      have onward {rest : List (Except Fault Bytes)}
          (equal : taken = Source.Step.answers capacity step ++ rest)
          (later : rest ++ [.ok []] <+: Source.answers capacity steps) :
          ∃ before, before ++ [.data []] <+: step :: steps ∧
            Source.answers capacity before = taken := by
        rcases ih later with ⟨before, within, served⟩
        refine ⟨step :: before, List.cons_prefix_cons.mpr ⟨rfl, within⟩, ?_⟩
        rw [equal, ← served]
        rfl
      have split : taken ++ [.ok []] <+:
          Source.Step.answers capacity step ++ Source.answers capacity steps := isPrefix
      cases step with
      | fault fault =>
          rcases Lists.exists_append_of_concat_prefix _ (by simp [Source.Step.answers]) split with
            ⟨rest, equal, later⟩
          exact onward equal later
      | data bytes =>
          by_cases empty : bytes = []
          · subst empty
            cases taken with
            | nil => exact ⟨[], List.cons_prefix_cons.mpr ⟨rfl, List.nil_prefix⟩, rfl⟩
            | cons answer taken =>
                rw [answers_mark] at split
                have parts := List.cons_prefix_cons.mp split
                exact onward (by rw [answers_mark, parts.1, List.singleton_append]) parts.2
          · have absent : .ok [] ∉ Source.Step.answers capacity (.data bytes) := by
              intro member
              rcases List.mem_map.mp member with ⟨piece, pieceMember, equal⟩
              exact ne_nil_of_mem_pieces positive empty pieceMember (Except.ok.inj equal)
            rcases Lists.exists_append_of_concat_prefix _ absent split with ⟨rest, equal, later⟩
            exact onward equal later

/-- The lines of a source are those of what its script hands on. -/
theorem Source.lines_signal (steps : List Source.Step) :
    (Source.signal steps).lines = Token.linesFrom [] (Source.tokens steps) := by
  rw [Signal.lines, Source.signal, Signal.heard_ofTokens]
  rfl

/-- The number of lines in some bytes, the last of which need not be ended. -/
def lineCount (bytes : Bytes) : Nat :=
  bytes.count Bytes.newline + if bytes = [] ∨ bytes.getLast? = some Bytes.newline then 0 else 1

/-- Where a script has no mark in it, all of its bytes are heard. -/
theorem Source.data_signal_of_unmarked (steps : List Source.Step) (unmarked : .data [] ∉ steps) :
    (Source.signal steps).data = Source.bytes steps := by
  have heard := Token.untilStop_bytes [] (Source.bytes steps) []
  rw [List.append_nil, ← Source.tokens_eq_map_byte steps unmarked] at heard
  have last (fresh : Bool) : Token.data (Token.untilStop fresh []) = [] := by
    cases fresh with
    | true => rfl
    | false => rfl
  have kept (bytes : Bytes) : Token.data (bytes.map Token.byte) = bytes := by
    simp [Token.data, List.filterMap_map, Function.comp_def, Token.byte?]
  rw [Signal.data, Source.signal, Signal.heard_ofTokens]
  refine (congrArg Token.data heard).trans ?_
  rw [Source.tokens_eq_map_byte steps unmarked, Token.data, List.filterMap_append]
  exact (congrArg₂ (· ++ ·) (kept _) (last _)).trans (List.append_nil _)

/-- Its lines are then those of its bytes. -/
theorem Source.length_lines_of_unmarked (steps : List Source.Step) (unmarked : .data [] ∉ steps) :
    (Source.signal steps).lines.length = lineCount (Source.bytes steps) := by
  have lines := Token.linesFrom_bytes [] (Source.bytes steps) []
  have rest := carried_eq_nil_iff [] (Source.bytes steps)
  rw [List.append_nil, ← Source.tokens_eq_map_byte steps unmarked] at lines
  rw [List.nil_append] at rest
  rw [Source.lines_signal, lines, List.length_append, length_finished, lineCount]
  by_cases held : carried [] (Source.bytes steps) = []
  · rw [held, Token.linesFrom_nil, if_pos (rest.mp held)]
    rfl
  · rw [Token.linesFrom_nil_of_held held, if_neg (fun ended => held (rest.mpr ended))]
    rfl

/-- A source that is only ever interrupted has its lines delivered, for a buffer of any size.  The
calls made for them serve its script up to the mark that stops the relay. -/
theorem Reader.buffered_delivered {capacity : Nat} (positive : 0 < capacity)
    (steps : List Source.Step)
    (passing : ∀ fault, .fault fault ∈ steps -> fault.isInterrupted = true) :
    LineRead.breaking? (Reader.buffered capacity steps).lineReads = none ∧
      LineRead.lines (Reader.buffered capacity steps).lineReads = (Source.signal steps).lines ∧
      ∃ before, before ++ [.data []] <+: steps ++ [.data [], .data []] ∧
        Source.tokens before = (Source.signal steps).heard ∧
        LineRead.calls (Reader.buffered capacity steps).lineReads =
          (Source.answers capacity (before ++ [.data []])).map Source.event := by
  rw [Reader.lineReads_buffered]
  have delivered := lineReadsFrom_delivered (Source.answers capacity steps)
    (fun fault member => passing fault (fault_mem_of_answers member)) [] []
  have lines := delivered.lines
  rcases delivered.calls with ⟨taken, calls, isPrefix, heard⟩
  rw [ofAnswers_answers positive] at lines heard
  have extended : Source.answers capacity steps ++ [.ok [], .ok []] =
      Source.answers capacity (steps ++ [.data [], .data []]) := by
    simp [Source.answers, answers_mark]
  rw [extended] at isPrefix
  rcases exists_steps_of_answers positive _ isPrefix with ⟨before, within, served⟩
  refine ⟨delivered.whole, lines.trans (Source.lines_signal steps).symm, before, within, ?_, ?_⟩
  · rw [← ofAnswers_answers positive, served, heard, Source.signal, Signal.heard_ofTokens]
    rfl
  · have last : Source.answers capacity (before ++ [.data []]) = taken ++ [.ok []] := by
      rw [← served]
      simp [Source.answers, answers_mark]
    rw [last]
    exact calls

end Stream
end AstLink
