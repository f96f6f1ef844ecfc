import AstLink.Bytes
import AstLink.Fault

namespace AstLink
namespace Stream

/-!
What passes at the two ends of a relay: every call of a reader and of a writer, with its answer.
A run of the relay is described by the list of these events, so that what was read, what was
written, and where a line end was made visible can all be read off one value.
-/

inductive Event where
  /-- The byte source was asked for bytes and gave a number of them. -/
  | read (answer : Except Fault Nat)
  /-- A line was asked for while `held` bytes were in the line buffer; bytes were added to it. -/
  | readLine (held : Nat) (answer : Except Fault Nat)
  /-- Bytes were offered to the writer, and it took a number of them. -/
  | write (offered : Bytes) (answer : Except Fault Nat)
  /-- The writer was told to make everything written so far visible. -/
  | flush (answer : Except Fault Unit)

namespace Event

/-- The bytes that a call handed over to the writer. -/
def accepted : Event -> Bytes
  | .write offered (.ok count) => offered.take count
  | _ => []

def isWriter : Event -> Bool
  | .write .. | .flush _ => true
  | _ => false

/-- Whether a call made the bytes before it visible. -/
def isFlush : Event -> Bool
  | .flush (.ok _) => true
  | _ => false

def output (events : List Event) : Bytes := events.flatMap accepted

end Event

end Stream
end AstLink
