import AstLink.Stream.Source

namespace AstLink
namespace Stream

/-!
Lines, as a reader delivers them.  A line ends with its newline, which belongs to it; a line
without one ends where the stream does.

A reader can be asked for lines as often as one likes.  After a fault, and after the end of the
stream, it goes on with whatever comes next; once nothing is left, every further line is empty.

A buffered source keeps the bytes that it was given beyond a line, and the next line begins with
them.  It is called until it gives a newline or no byte.  A call that was only broken off is made
again and keeps the line begun; any other fault drops that line.
-/

/-- One reading of a line: the calls made for it, the bytes it added to the line buffer, and the
fault with which it ended, if it did.  Without a fault and without a byte it is the end of the
stream. -/
structure LineRead where
  events : List Event
  line : Bytes
  fault : Option Fault
  deriving Inhabited

/-- Whether there is reason to read on: there was a line, or the reading was only broken off. -/
def LineRead.goesOn (read : LineRead) : Bool :=
  match read.fault with
  | some fault => fault.isInterrupted
  | none => !read.line.isEmpty

/-- The first line of some bytes, if its newline is among them, and the bytes behind it. -/
def cutLine? : Bytes -> Option (Bytes × Bytes)
  | [] => none
  | byte :: bytes =>
      if byte = Bytes.newline then some ([byte], bytes)
      else (cutLine? bytes).map (fun (line, rest) => (byte :: line, rest))

theorem cutLine?_append {bytes line rest : Bytes} (cut : cutLine? bytes = some (line, rest)) :
    bytes = line ++ rest ∧ line ≠ [] := by
  induction bytes generalizing line with
  | nil => cases cut
  | cons byte bytes ih =>
      unfold cutLine? at cut
      split at cut
      · cases cut
        exact ⟨rfl, List.cons_ne_nil _ _⟩
      · rcases Option.map_eq_some_iff.mp cut with ⟨⟨inner, behind⟩, found, same⟩
        cases same
        exact ⟨by rw [(ih found).1, List.cons_append], List.cons_ne_nil _ _⟩

/-- What a reader has still to give. -/
inductive Feed where
  /-- The bytes in the buffer and the answers of the source to come.  After these it gives no more
  bytes. -/
  | buffered (ahead : Bytes) (answers : List (Except Fault Bytes))
  /-- Readings that are given.  After these there is nothing to be read. -/
  | scripted (reads : List (Bytes × Option Fault))

namespace Feed

/-- A given reading.  The line buffer is empty whenever a line is asked for. -/
def scriptedRead (line : Bytes) (fault : Option Fault) : LineRead :=
  let held : Bytes := []
  let answer :=
    match fault with
    | none => .ok line.length
    | some fault => .error fault
  ⟨[.readLine held.length answer], line, fault⟩

/-- Goes on with a line begun, for which `events` are the calls made so far, when there is nothing
in the buffer. -/
def readOn (events : List Event) (begun : Bytes) : List (Except Fault Bytes) -> LineRead × Feed
  | [] => (⟨events ++ [.read (.ok 0)], begun, none⟩, .buffered [] [])
  | answer :: answers =>
      let events := events ++ [Source.event answer]
      match answer with
      | .error fault =>
          if fault.isInterrupted then readOn events begun answers
          else (⟨events, begun, some fault⟩, .buffered [] answers)
      | .ok [] => (⟨events, begun, none⟩, .buffered [] answers)
      | .ok bytes =>
          match cutLine? bytes with
          | some (line, ahead) => (⟨events, begun ++ line, none⟩, .buffered ahead answers)
          | none => readOn events (begun ++ bytes) answers

def next : Feed -> LineRead × Feed
  | .buffered ahead answers =>
      match cutLine? ahead with
      | some (line, ahead) => (⟨[], line, none⟩, .buffered ahead answers)
      | none => readOn [] ahead answers
  | .scripted [] => (scriptedRead [] none, .scripted [])
  | .scripted ((line, fault) :: reads) => (scriptedRead line fault, .scripted reads)

/-! ## What is left -/

def left : Feed -> Nat
  | .buffered ahead answers => ahead.length + (brought answers).length
  | .scripted reads => reads.length

/-- What a reading of a buffered source delivers is no longer left. -/
theorem readOn_left (events : List Event) (begun : Bytes) (answers : List (Except Fault Bytes)) :
    (readOn events begun answers).1.line.length + (readOn events begun answers).2.left ≤
      begun.length + (brought answers).length := by
  fun_induction readOn events begun answers with
  | case1 events begun => simp [left, brought]
  | case2 events begun answers fault interrupted calls ih => simpa [brought] using ih
  | case3 events begun answers fault final calls => simp [left, brought]
  | case4 events begun answers calls => simp [left, brought]
  | case5 events begun answers bytes nonempty line ahead cut calls =>
      simp [left, brought, (cutLine?_append cut).1, Nat.add_assoc]
  | case6 events begun answers bytes nonempty uncut calls ih =>
      simpa [brought, Nat.add_assoc] using ih

/-- A buffered source is not given up where it was only interrupted, so there is a line if there is
reason to read on. -/
theorem readOn_line (events : List Event) (begun : Bytes) (answers : List (Except Fault Bytes))
    (goesOn : (readOn events begun answers).1.goesOn = true) :
    0 < (readOn events begun answers).1.line.length := by
  fun_induction readOn events begun answers with
  | case1 events begun => simpa [LineRead.goesOn, List.length_pos_iff] using goesOn
  | case2 events begun answers fault interrupted calls ih => exact ih goesOn
  | case3 events begun answers fault final calls => exact absurd goesOn final
  | case4 events begun answers calls => simpa [LineRead.goesOn, List.length_pos_iff] using goesOn
  | case5 events begun answers bytes nonempty line ahead cut calls =>
      have positive := List.length_pos_iff.mpr (cutLine?_append cut).2
      rw [List.length_append]
      omega
  | case6 events begun answers bytes nonempty uncut calls ih => exact ih goesOn

/-- A reading after which there is reason to read on has taken something away. -/
theorem left_next_lt (feed : Feed) (goesOn : feed.next.1.goesOn = true) :
    feed.next.2.left < feed.left := by
  cases feed with
  | scripted reads =>
      cases reads with
      | nil => cases goesOn
      | cons read reads => exact Nat.lt_succ_self reads.length
  | buffered ahead answers =>
      simp only [next] at goesOn ⊢
      cases cut : cutLine? ahead with
      | some parts =>
          have split := cutLine?_append cut
          have positive := List.length_pos_iff.mpr split.2
          simp only [left, split.1, List.length_append]
          omega
      | none =>
          rw [cut] at goesOn
          have line := readOn_line [] ahead answers goesOn
          have taken := readOn_left [] ahead answers
          simp only [left] at taken ⊢
          omega

end Feed

inductive Reader where
  /-- A byte source behind a buffer of `capacity` bytes. -/
  | buffered (capacity : Nat) (steps : List Source.Step)
  /-- A reader whose every reading of a line is given: the bytes it adds to the line buffer, which
  are not looked into, and its fault. -/
  | scripted (reads : List (Bytes × Option Fault))

def Reader.feed : Reader -> Feed
  | .buffered capacity steps => .buffered [] (Source.answers capacity steps)
  | .scripted reads => .scripted reads

end Stream
end AstLink
