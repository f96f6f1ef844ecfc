import AstLink.Stream.Event

namespace AstLink
namespace Stream

/-!
Byte sources.  A source is a script: bytes that become available, and faults.  It is always asked
for as many bytes as the buffer in front of it holds, and only when that buffer is empty.  So what
it answers does not depend on what becomes of the bytes, and the whole of its behaviour is the
list of its answers.

An empty answer is the end of the stream for that call only.  A later call goes on with the script;
after the script every answer is empty.
-/

inductive Source.Step where
  | data (bytes : Bytes)
  | fault (fault : Fault)

/-- Cuts a list into pieces of `size` elements; the last piece may be shorter.  Pieces of no
elements would never end, so there is one piece then, and it is empty; an empty list is one empty
piece, too. -/
def pieces (size : Nat) (bytes : Bytes) : List Bytes :=
  if _h : size = 0 ∨ bytes.length ≤ size then [bytes.take size]
  else bytes.take size :: pieces size (bytes.drop size)
termination_by bytes.length
decreasing_by
  simp only [not_or, Nat.not_le] at _h
  simp only [List.length_drop]
  omega

namespace Source

/-- The answers to the calls that one step serves, for a buffer of `capacity` bytes. -/
def Step.answers (capacity : Nat) : Step -> List (Except Fault Bytes)
  | .data bytes => (pieces capacity bytes).map Except.ok
  | .fault reason => [.error reason]

/-- The answers of a source, up to the end of its script. -/
def answers (capacity : Nat) (steps : List Step) : List (Except Fault Bytes) :=
  steps.flatMap (Step.answers capacity)

def event (answer : Except Fault Bytes) : Event := .read (answer.map List.length)

end Source

/-- The bytes that answers bring. -/
def brought : List (Except Fault Bytes) -> Bytes
  | [] => []
  | .ok bytes :: answers => bytes ++ brought answers
  | .error _ :: answers => brought answers

end Stream
end AstLink
