import AstLink.Proofs.Relay.Turns
import AstLink.Proofs.Stream.Delivery
import AstLink.Proofs.Stream.Handing

namespace AstLink

/-!
A relay ends, and after few calls.

Three loops are nested in a relay: lines are forwarded one after the other, a source is called until
a line is complete, and a writer is called until a line is written.  The first two start again after
an interruption, a source goes on after an end of its stream, and a writer may take one byte at a
time, so no loop has a counter that goes down with every turn.

What goes down is the sum of what is left.  A reading uses up the calls that it makes and the bytes
that it delivers (`Stream.Feed.next_cost`), and a call of the writer uses up a byte of the line or a
step of its own script (`Stream.Sink.writeAll_cost`).  After the script of the source there are at
most two calls more, one that ends a line begun and one at which the relay stops.  So the calls are
bounded by what there is at the beginning (`Relay.Forwards.within`), and so are the turns of the
loop (`Relay.run_endsAfter`), none of which is taken for the last without a reason that its last
call gives (`Relay.Forwards.endWith`).  The main statement is `relay_bounded`.
-/

namespace Stream

/-- Whether a call offers bytes to the writer. -/
def Event.isWriting : Event -> Bool
  | .write .. => true
  | _ => false

/-- Whether a call is one of the reader's. -/
def Event.isReading (event : Event) : Bool := !event.isWriter

theorem Event.isWriter_of_isWriting {event : Event} (writing : event.isWriting = true) :
    event.isWriter = true := by
  cases event <;> first | rfl | cases writing

theorem Event.isWriter_of_isFlushing {event : Event} (flushing : event.isFlushing = true) :
    event.isWriter = true := by
  cases event <;> first | rfl | cases flushing

/-- A call whose answer is a reason to end, and how a relay ends after it. -/
inductive Event.Ends : Event -> Except Fault Nat -> Prop
  /-- The source has no more bytes. -/
  | exhausted (count : Nat) : Ends (.read (.ok 0)) (.ok count)
  /-- A reader of lines has no more bytes. -/
  | noLine (held count : Nat) : Ends (.readLine held (.ok 0)) (.ok count)
  | unread {fault : Fault} (final : fault.isInterrupted = false) :
      Ends (.read (.error fault)) (.error fault)
  | unreadLine (held : Nat) {fault : Fault} (final : fault.isInterrupted = false) :
      Ends (.readLine held (.error fault)) (.error fault)
  | unwritten (offered : Bytes) {fault : Fault} (final : fault.isInterrupted = false) :
      Ends (.write offered (.error fault)) (.error fault)
  /-- The writer takes none of the bytes offered. -/
  | refused (offered : Bytes) : Ends (.write offered (.ok 0)) (.error Fault.writeZero)
  /-- A flush is not tried again, for whatever reason it fails. -/
  | unflushed (fault : Fault) : Ends (.flush (.error fault)) (.error fault)

/-- The last of some calls gives the reason for an outcome. -/
def Event.EndWith (events : List Event) (outcome : Except Fault Nat) : Prop :=
  ∃ last, events.getLast? = some last ∧ last.Ends outcome

theorem Event.EndWith.after {events : List Event} {outcome : Except Fault Nat}
    (ends : EndWith events outcome) (earlier : List Event) :
    EndWith (earlier ++ events) outcome := by
  rcases ends with ⟨last, final, reason⟩
  exact ⟨last, by rw [List.getLast?_append, final, Option.some_or], reason⟩

theorem Event.EndWith.of_concat {event : Event} {outcome : Except Fault Nat}
    (reason : event.Ends outcome) (earlier : List Event) :
    EndWith (earlier ++ [event]) outcome := ⟨event, List.getLast?_concat, reason⟩

/-! ## The writer -/

namespace Sink

/-- A write uses up a byte or a step of the writer's script. -/
theorem writeAll_cost (flushes : List (Option Fault)) (writes : List Step) (bytes : Bytes) :
    (writeAll flushes writes bytes).events.length +
        (writeAll flushes writes bytes).sink.writes.length ≤ bytes.length + writes.length := by
  have positive {bytes : Bytes} (nonempty : bytes ≠ []) : 0 < bytes.length :=
    List.length_pos_iff.mpr nonempty
  fun_induction writeAll flushes writes bytes with
  | case1 writes => simp
  | case2 bytes nonempty => simpa using Nat.succ_le_of_lt (positive nonempty)
  | case3 writes bytes nonempty =>
      have some := positive nonempty
      simp only [List.length_cons, List.length_nil]
      omega
  | case4 limit writes bytes nonempty count zeroTaken =>
      simp only [List.length_cons, List.length_nil]
      omega
  | case5 limit writes bytes nonempty count someTaken ih =>
      simp only [Handed.after, List.length_append, List.length_cons, List.length_nil,
        List.length_drop] at ih ⊢
      omega
  | case6 fault writes bytes nonempty interrupted ih =>
      simp only [Handed.after, List.length_append, List.length_cons, List.length_nil] at ih ⊢
      omega
  | case7 fault writes bytes nonempty final =>
      simp only [List.length_cons, List.length_nil]
      omega

/-- A writing that fails does so at its last call. -/
theorem writeAll_ended (flushes : List (Option Fault)) (writes : List Step) (bytes : Bytes)
    {fault : Fault} (failed : (writeAll flushes writes bytes).outcome = .error fault) :
    Event.EndWith (writeAll flushes writes bytes).events (.error fault) := by
  fun_induction writeAll flushes writes bytes with
  | case1 => cases failed
  | case2 => cases failed
  | case3 => cases failed
  | case4 limit writes bytes nonempty count zeroTaken =>
      cases failed
      exact .of_concat (.refused bytes) []
  | case5 limit writes bytes nonempty count someTaken ih => exact (ih failed).after _
  | case6 reason writes bytes nonempty interrupted ih => exact (ih failed).after _
  | case7 reason writes bytes nonempty final =>
      cases failed
      exact .of_concat (.unwritten bytes (Bool.eq_false_iff.mpr final)) []

variable (sink : Sink) (line : Bytes)

/-- Forwarding a line costs as much as writing it, and at most one flush. -/
theorem forward_cost :
    (sink.forward line).events.countP Event.isWriting +
        (sink.forward line).sink.writes.length ≤ line.length + sink.writes.length ∧
      (sink.forward line).events.countP Event.isFlushing ≤ 1 := by
  have cost := writeAll_cost sink.flushes sink.writes line
  have writes := List.countP_le_length (p := Event.isWriting)
    (l := (writeAll sink.flushes sink.writes line).events)
  have unflushed : (writeAll sink.flushes sink.writes line).events.countP Event.isFlushing = 0 :=
    List.countP_eq_zero.mpr fun event member =>
      Bool.eq_false_iff.mp ((writeAll_writes _ _ _).isFlushing event member)
  unfold forward
  cases written : (writeAll sink.flushes sink.writes line).outcome with
  | error fault =>
      simp only [written]
      exact ⟨by omega, by omega⟩
  | ok done =>
      have kept (other : Sink) : other.flush.sink.writes = other.writes := by
        unfold flush
        split <;> rfl
      simp only [written, Handed.after, kept, flush_events, List.countP_append,
        List.countP_singleton, unflushed, Event.isWriting, Event.isFlushing]
      exact ⟨by simp only [Bool.false_eq_true, if_false]; omega, by simp⟩

/-- A line that is not forwarded is so because of the last call. -/
theorem forward_ended {fault : Fault} (failed : (sink.forward line).outcome = .error fault) :
    Event.EndWith (sink.forward line).events (.error fault) := by
  unfold forward at failed ⊢
  cases written : (writeAll sink.flushes sink.writes line).outcome with
  | error reason =>
      simp only [written] at failed ⊢
      exact writeAll_ended _ _ _ (written.trans failed)
  | ok done =>
      simp only [written, Handed.after] at failed ⊢
      rw [flush_events, failed]
      exact .of_concat (.unflushed fault) _

end Sink

/-! ## The reader -/

namespace Feed

theorem readOn_ended (events : List Event) (begun : Bytes) (answers : List (Except Fault Bytes))
    (last : (readOn events begun answers).1.goesOn = false) (count : Nat) :
    Event.EndWith (readOn events begun answers).1.events
      ((readOn events begun answers).1.fault.elim (.ok count) .error) := by
  fun_induction readOn events begun answers with
  | case1 events begun => exact .of_concat (.exhausted count) events
  | case2 events begun answers fault interrupted calls ih => exact ih last
  | case3 events begun answers fault final calls =>
      exact .of_concat (.unread (Bool.eq_false_iff.mpr final)) events
  | case4 events begun answers calls => exact .of_concat (.exhausted count) events
  | case5 events begun answers bytes nonempty line ahead cut calls =>
      simp [LineRead.goesOn, (cutLine?_append cut).2] at last
  | case6 events begun answers bytes nonempty uncut calls ih => exact ih last

/-- A reading that is the last ends with the call that is the reason for it. -/
theorem next_ended (feed : Feed) (last : feed.next.1.goesOn = false) (count : Nat) :
    Event.EndWith feed.next.1.events (feed.next.1.fault.elim (.ok count) .error) := by
  cases feed with
  | scripted reads =>
      -- A given reading has one call, which says how it ended.
      have given (line : Bytes) (broken : Option Fault)
          (last : (scriptedRead line broken).goesOn = false) :
          Event.EndWith (scriptedRead line broken).events (broken.elim (.ok count) .error) := by
        cases broken with
        | some fault => exact .of_concat (.unreadLine 0 last) []
        | none =>
            have empty : line = [] := by simpa [LineRead.goesOn, scriptedRead] using last
            subst empty
            exact .of_concat (.noLine 0 count) []
      cases reads with
      | nil => exact given [] none last
      | cons read reads => exact given read.1 read.2 last
  | buffered ahead answers =>
      cases cut : cutLine? ahead with
      | some parts =>
          rw [next_of_cut answers cut] at last
          simp [LineRead.goesOn, LineRead.ofLine, (cutLine?_append cut).2] at last
      | none =>
          rw [next_of_uncut answers cut] at last ⊢
          exact readOn_ended [] ahead answers last count

theorem readings_ended (feed : Feed) : ∀ read ∈ feed.readings, read.goesOn = false ->
    ∀ count, Event.EndWith read.events (read.fault.elim (.ok count) .error) := by
  fun_induction readings feed with
  | case1 feed onward ih =>
      exact List.forall_mem_cons.mpr ⟨fun last => Bool.noConfusion (onward.symm.trans last), ih⟩
  | case2 feed last => exact List.forall_mem_singleton.mpr fun stops => feed.next_ended stops

/-- The calls that a reader may still make.  When its source has no answers left there is one, or
there are two if bytes are held. -/
def calls : Feed -> Nat
  | .buffered ahead answers => answers.length + if ahead = [] ∧ answers = [] then 1 else 2
  | .scripted reads => reads.length + 1

/-- The bytes that it may still deliver. -/
def bytes : Feed -> Nat
  | .buffered ahead answers => ahead.length + (brought answers).length
  | .scripted reads => (reads.map Prod.fst).flatten.length

theorem calls_le (held : Bytes) (answers : List (Except Fault Bytes)) :
    (buffered held answers).calls ≤ answers.length + 2 := by
  simp only [calls]
  split <;> omega

/-- With an answer less there is a call less, whatever is held. -/
theorem calls_cons (held begun : Bytes) (answer : Except Fault Bytes)
    (answers : List (Except Fault Bytes)) :
    (buffered held answers).calls < (buffered begun (answer :: answers)).calls := by
  have few := calls_le held answers
  simp only [calls, List.length_cons, reduceCtorEq, and_false, if_false] at few ⊢
  omega

/-- The calls after a reading.  There are none after the last. -/
def callsAfter (taken : LineRead × Feed) : Nat := if taken.1.goesOn then taken.2.calls else 0

theorem callsAfter_le (taken : LineRead × Feed) : callsAfter taken ≤ taken.2.calls := by
  unfold callsAfter
  split
  · exact Nat.le_refl _
  · exact Nat.zero_le _

theorem readOn_calls (events : List Event) (begun : Bytes)
    (answers : List (Except Fault Bytes)) :
    (readOn events begun answers).1.events.length + callsAfter (readOn events begun answers) ≤
      events.length + (buffered begun answers).calls := by
  -- A call is made, and what is left then is told by the answers after it.
  have called (held begun : Bytes) (answer : Except Fault Bytes)
      (answers : List (Except Fault Bytes)) (events : List Event) (event : Event) (more : Nat)
      (few : more ≤ (buffered held answers).calls) :
      (events ++ [event]).length + more ≤
        events.length + (buffered begun (answer :: answers)).calls := by
    have less := calls_cons held begun answer answers
    rw [List.length_append, List.length_singleton]
    omega
  fun_induction readOn events begun answers with
  | case1 events begun =>
      by_cases held : begun = []
      · simp [callsAfter, LineRead.goesOn, calls, held]
      · simp [callsAfter, LineRead.goesOn, calls, held]
  | case2 events begun answers fault interrupted calls ih =>
      exact Nat.le_trans ih (called begun begun _ answers events _ _ (Nat.le_refl _))
  | case3 events begun answers fault final calls =>
      exact called [] begun _ answers events _ _ (callsAfter_le _)
  | case4 events begun answers calls =>
      exact called [] begun _ answers events _ _ (callsAfter_le _)
  | case5 events begun answers bytes nonempty line ahead cut calls =>
      exact called ahead begun _ answers events _ _ (callsAfter_le _)
  | case6 events begun answers bytes nonempty uncut calls ih =>
      exact Nat.le_trans ih (called (begun ++ bytes) begun _ answers events _ _ (Nat.le_refl _))

/-- What a reader of a source has left when it has read on are bytes. -/
theorem bytes_readOn (events : List Event) (begun : Bytes)
    (answers : List (Except Fault Bytes)) :
    (readOn events begun answers).2.bytes = (readOn events begun answers).2.left := by
  fun_induction readOn events begun answers with
  | case2 events begun answers fault interrupted calls ih => exact ih
  | case6 events begun answers bytes nonempty uncut calls ih => exact ih
  | _ => rfl

/-- A reading uses up the calls that it makes and the bytes that it delivers. -/
theorem next_cost (feed : Feed) :
    feed.next.1.events.length + callsAfter feed.next ≤ feed.calls ∧
      feed.next.1.line.length + feed.next.2.bytes ≤ feed.bytes := by
  cases feed with
  | scripted reads =>
      have after := callsAfter_le (scripted reads).next
      cases reads with
      | nil => exact ⟨Nat.le_refl _, Nat.le_refl _⟩
      | cons read reads =>
          constructor
          · have one : (scripted (read :: reads)).next.1.events.length = 1 := rfl
            rw [one, Nat.add_comm]
            exact Nat.succ_le_succ after
          · simp [next, scriptedRead, bytes]
  | buffered ahead answers =>
      cases cut : cutLine? ahead with
      | some parts =>
          have split := cutLine?_append cut
          have held : ahead ≠ [] :=
            fun empty => split.2 (List.append_eq_nil_iff.mp (split.1.symm.trans empty)).1
          have few := callsAfter_le (LineRead.ofLine parts.1, buffered parts.2 answers)
          rw [next_of_cut answers cut]
          constructor
          · have most : (buffered ahead answers).calls = answers.length + 2 := by
              simp [calls, held]
            rw [most, LineRead.ofLine, List.length_nil, Nat.zero_add]
            exact Nat.le_trans few (calls_le parts.2 answers)
          · simp [LineRead.ofLine, bytes, split.1, Nat.add_assoc]
      | none =>
          rw [next_of_uncut answers cut]
          have few := readOn_calls [] ahead answers
          rw [List.length_nil, Nat.zero_add] at few
          rw [bytes_readOn]
          exact ⟨few, readOn_left [] ahead answers⟩

theorem readings_cost (feed : Feed) :
    (feed.readings.flatMap LineRead.events).length ≤ feed.calls ∧
      (feed.readings.map LineRead.line).flatten.length ≤ feed.bytes := by
  fun_induction readings feed with
  | case1 feed onward ih =>
      have cost := feed.next_cost
      rw [callsAfter, if_pos onward] at cost
      simp only [List.flatMap_cons, List.map_cons, List.flatten_cons, List.length_append]
      omega
  | case2 feed last =>
      have cost := feed.next_cost
      simp only [List.flatMap_singleton, List.map_singleton, List.flatten_singleton]
      omega

end Feed

/-- A source never answers more often than it has bytes and steps. -/
theorem length_answers_le (capacity : Nat) (steps : List Source.Step) :
    (Source.answers capacity steps).length ≤ (Source.bytes steps).length + steps.length ∧
      (brought (Source.answers capacity steps)).length ≤ (Source.bytes steps).length := by
  have cut (bytes : Bytes) : (pieces capacity bytes).length ≤ bytes.length + 1 ∧
      (pieces capacity bytes).flatten.length ≤ bytes.length := by
    induction bytes using pieces.induct capacity with
    | case1 bytes fits =>
        rw [pieces, dif_pos fits, List.flatten_singleton]
        exact ⟨Nat.le_add_left 1 _, List.length_take_le' capacity bytes⟩
    | case2 bytes fits ih =>
        rw [pieces, dif_neg fits]
        simp only [List.length_cons, List.flatten_cons, List.length_append, List.length_take,
          List.length_drop] at ih ⊢
        omega
  induction steps with
  | nil => exact ⟨Nat.le_refl 0, Nat.le_refl 0⟩
  | cons step steps ih =>
      have first : (step.answers capacity).length ≤ step.bytes.length + 1 ∧
          (brought (step.answers capacity)).length ≤ step.bytes.length := by
        cases step with
        | fault fault => exact ⟨Nat.le_refl 1, Nat.le_refl 0⟩
        | data bytes =>
            rw [Source.Step.answers, List.length_map, brought_map_ok]
            exact cut bytes
      have split : Source.bytes (step :: steps) = step.bytes ++ Source.bytes steps :=
        List.flatMap_cons
      have served : Source.answers capacity (step :: steps) =
          step.answers capacity ++ Source.answers capacity steps := List.flatMap_cons
      rw [split, served, brought_append]
      simp only [List.length_append, List.length_cons]
      exact ⟨by omega, by omega⟩

end Stream

/-! ## The relay -/

namespace Relay

open AstLink.Stream

/-- No more calls than these: so many of the reader; of the writer a write for each byte and each
step of its script, and a flush for each byte. -/
structure Within (calls bytes steps : Nat) (events : List Event) : Prop where
  reading : events.countP Event.isReading ≤ calls
  writing : events.countP Event.isWriting ≤ bytes + steps
  flushing : events.countP Event.isFlushing ≤ bytes

namespace Within

variable {calls bytes steps : Nat} {events first : List Event}

theorem nil : Within calls bytes steps [] where
  reading := Nat.zero_le _
  writing := Nat.zero_le _
  flushing := Nat.zero_le _

theorem weaken (within : Within calls bytes steps events) {calls' bytes' : Nat}
    (more : calls ≤ calls') (more' : bytes ≤ bytes') : Within calls' bytes' steps events where
  reading := Nat.le_trans within.reading more
  writing := Nat.le_trans within.writing (Nat.add_le_add_right more' steps)
  flushing := Nat.le_trans within.flushing more'

/-- Calls of the reader in front. -/
theorem after_reading (within : Within calls bytes steps events)
    (quiet : ∀ event ∈ first, event.isWriter = false) :
    Within (first.length + calls) bytes steps (first ++ events) := by
  have most := List.countP_le_length (p := Event.isReading) (l := first)
  have none {kind : Event -> Bool}
      (writers : ∀ event, kind event = true -> event.isWriter = true) :
      first.countP kind = 0 := by
    rw [List.countP_eq_zero]
    intro event member isKind
    have reading := quiet event member
    rw [writers event isKind] at reading
    cases reading
  have unwritten := none fun _ writing => Event.isWriter_of_isWriting writing
  have unflushed := none fun _ flushing => Event.isWriter_of_isFlushing flushing
  constructor
  · rw [List.countP_append]
    exact Nat.add_le_add most within.reading
  · rw [List.countP_append, unwritten, Nat.zero_add]
    exact within.writing
  · rw [List.countP_append, unflushed, Nat.zero_add]
    exact within.flushing

/-- The calls that forward a line in front. -/
theorem after_line {sink : Sink} {line : Bytes} (nonempty : line ≠ [])
    (within : Within calls bytes (sink.forward line).sink.writes.length events) :
    Within calls (line.length + bytes) sink.writes.length
      ((sink.forward line).events ++ events) := by
  have cost := sink.forward_cost line
  have some : 0 < line.length := List.length_pos_iff.mpr nonempty
  have unread : (sink.forward line).events.countP Event.isReading = 0 := by
    rw [List.countP_eq_zero]
    intro event member
    simp [Event.isReading, sink.forward_isWriter line event member]
  have writing := within.writing
  have flushing := within.flushing
  constructor
  · rw [List.countP_append, unread, Nat.zero_add]
    exact within.reading
  · rw [List.countP_append]
    omega
  · rw [List.countP_append]
    omega

end Within

/-- Forwarding readings takes no more calls than were made for the readings, and than there are
bytes in their lines and steps in the writer's script. -/
theorem Forwards.within {count : Nat} {sink : Sink} {reads : List LineRead} {report : Report}
    (forwards : Forwards count sink reads report) (quiet : ∀ read ∈ reads, read.Quiet) :
    Within (reads.flatMap LineRead.events).length (reads.map LineRead.line).flatten.length
      sink.writes.length report.events := by
  have alone {read : LineRead} (reading : read.Quiet) (bytes steps : Nat) :
      Within read.events.length bytes steps read.events := by
    simpa using (Within.nil : Within 0 bytes steps []).after_reading reading
  -- The writer's script gets shorter from line to line.
  induction forwards with
  | @interrupted _ sink read reads _ report broken interrupted later ih =>
      have others := ih (fun other member => quiet other (List.mem_cons_of_mem _ member))
      rw [List.flatMap_cons, List.length_append, List.map_cons, List.flatten_cons,
        List.length_append]
      exact (others.after_reading (quiet read List.mem_cons_self)).weaken (Nat.le_refl _)
        (Nat.le_add_left _ _)
  | @unread _ _ read reads _ broken final =>
      rw [List.flatMap_cons, List.length_append]
      exact (alone (quiet read List.mem_cons_self) _ _).weaken (Nat.le_add_right _ _)
        (Nat.le_refl _)
  | @ended _ _ read reads whole empty =>
      rw [List.flatMap_cons, List.length_append]
      exact (alone (quiet read List.mem_cons_self) _ _).weaken (Nat.le_add_right _ _)
        (Nat.le_refl _)
  | @unforwarded _ sink read reads _ whole held failed =>
      have written : Within 0 (read.line.length + 0) sink.writes.length
          ((sink.forward read.line).events ++ []) := Within.nil.after_line held
      rw [List.append_nil] at written
      rw [List.flatMap_cons, List.length_append, List.map_cons, List.flatten_cons,
        List.length_append]
      exact (written.after_reading (quiet read List.mem_cons_self)).weaken
        (Nat.add_le_add_left (Nat.zero_le _) _) (Nat.add_le_add_left (Nat.zero_le _) _)
  | @forwarded _ sink read reads report whole held taken later ih =>
      have others := ih (fun other member => quiet other (List.mem_cons_of_mem _ member))
      have written := (others.after_line held).after_reading (quiet read List.mem_cons_self)
      rw [List.flatMap_cons, List.length_append, List.map_cons, List.flatten_cons,
        List.length_append, Report.after, List.append_assoc]
      exact written

/-- It ends with the call that is the reason for it, if the reading does at which it must end. -/
theorem Forwards.endWith {count : Nat} {sink : Sink} {reads : List LineRead} {report : Report}
    (forwards : Forwards count sink reads report)
    (ended : ∀ read ∈ reads, read.goesOn = false ->
      ∀ count, Event.EndWith read.events (read.fault.elim (.ok count) .error)) :
    Event.EndWith report.events report.outcome := by
  induction forwards with
  | @interrupted _ _ read _ _ _ broken interrupted later ih =>
      exact (ih fun other member => ended other (List.mem_cons_of_mem _ member)).after read.events
  | @unread count _ read _ _ broken final =>
      have last : read.goesOn = false := by simp [LineRead.goesOn, broken, final]
      have reason := ended read List.mem_cons_self last count
      rwa [broken] at reason
  | @ended count _ read _ whole empty =>
      have last : read.goesOn = false := by simp [LineRead.goesOn, whole, empty]
      have reason := ended read List.mem_cons_self last count
      rwa [whole] at reason
  | @unforwarded _ sink read _ _ whole held failed =>
      exact (sink.forward_ended read.line failed).after read.events
  | @forwarded _ sink read _ _ whole held taken later ih =>
      exact (ih fun other member => ended other (List.mem_cons_of_mem _ member)).after _

/-- A relay that ends after no more than so many turns of its loop, and has then made no more than
so many calls of its reader, and as many of its writer as there are bytes and steps. -/
structure Bounded (reader : Reader) (sink : Sink) (turns calls bytes : Nat) : Prop where
  ends : ∃ made, made ≤ turns ∧ EndsAfter made ⟨reader.feed, sink, 0⟩ (relay reader sink)
  reason : Event.EndWith (relay reader sink).events (relay reader sink).outcome
  reading : (relay reader sink).events.countP Event.isReading ≤ calls
  writing : (relay reader sink).events.countP Event.isWriting ≤ bytes + sink.writes.length
  flushing : (relay reader sink).events.countP Event.isFlushing ≤ bytes

/-- What a reader has left bounds the relay. -/
theorem relay_bounded_left (reader : Reader) (sink : Sink) :
    Bounded reader sink (reader.feed.left + 1) reader.feed.calls reader.feed.bytes := by
  have forwards := relay_forwards reader sink
  have cost := reader.feed.readings_cost
  have within := (forwards.within reader.lineReads_quiet).weaken cost.1 cost.2
  have ended := forwards.endWith reader.feed.readings_ended
  exact ⟨run_endsAfter ⟨reader.feed, sink, 0⟩, ended, within.reading, within.writing,
    within.flushing⟩

theorem Bounded.weaken {reader : Reader} {sink : Sink} {turns calls bytes : Nat}
    (bounded : Bounded reader sink turns calls bytes) {turns' calls' bytes' : Nat}
    (moreTurns : turns ≤ turns') (moreCalls : calls ≤ calls') (moreBytes : bytes ≤ bytes') :
    Bounded reader sink turns' calls' bytes' where
  ends := by
    rcases bounded.ends with ⟨made, few, ends⟩
    exact ⟨made, Nat.le_trans few moreTurns, ends⟩
  reason := bounded.reason
  reading := Nat.le_trans bounded.reading moreCalls
  writing := Nat.le_trans bounded.writing (Nat.add_le_add_right moreBytes _)
  flushing := Nat.le_trans bounded.flushing moreBytes

end Relay

open AstLink.Stream

/-- A relay ends for a reason that its last call gives, whatever its reader and its writer do, and
after no more turns and calls than there is to be read and written.

A source with so many steps and bytes is called at most once for each of them and twice more, for a
buffer of any size, also for one that holds nothing; a reader whose every reading is given is called
at most once more than there are readings.  There is at most one write for each byte and each step
of the writer, and at most one flush for each byte. -/
theorem relay_bounded (sink : Sink) :
    (∀ (capacity : Nat) (steps : List Source.Step),
      let bytes := (Source.bytes steps).length
      Relay.Bounded (.buffered capacity steps) sink (bytes + 1) (bytes + steps.length + 2) bytes) ∧
    ∀ reads : List (Bytes × Option Fault),
      Relay.Bounded (.scripted reads) sink (reads.length + 1) (reads.length + 1)
        (reads.map Prod.fst).flatten.length := by
  constructor
  · intro capacity steps bytes
    have served := length_answers_le capacity steps
    have few := Feed.calls_le [] (Source.answers capacity steps)
    refine (Relay.relay_bounded_left (.buffered capacity steps) sink).weaken ?_ ?_ ?_
    · simp only [Reader.feed, Feed.left, List.length_nil]
      omega
    · exact Nat.le_trans few (Nat.add_le_add_right served.1 2)
    · simp only [Reader.feed, Feed.bytes, List.length_nil]
      omega
  · exact fun reads => Relay.relay_bounded_left (.scripted reads) sink

end AstLink
