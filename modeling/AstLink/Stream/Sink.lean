import AstLink.Stream.Event

namespace AstLink
namespace Stream

/-!
Writers.  A sink is a script of what it does when bytes are offered and when it is flushed.  After
its script it takes everything and every flush succeeds.

Writing a line means offering it until all of it is taken.  A write that was only broken off is
tried again with the same bytes; a flush never is.
-/

inductive Sink.Step where
  | all
  /-- It takes at most so many, from the front. -/
  | atMost (limit : Nat)
  | fault (fault : Fault)

structure Sink where
  writes : List Sink.Step := []
  /-- What becomes of each flush: nothing, or a fault. -/
  flushes : List (Option Fault) := []

/-- What came of handing something to a sink: the calls made, the outcome, and the sink as it is
afterwards. -/
structure Handed where
  events : List Event
  outcome : Except Fault Unit
  sink : Sink

/-- The same with calls that were made before. -/
def Handed.after (handed : Handed) (events : List Event) : Handed :=
  { handed with events := events ++ handed.events }

namespace Sink

/-- Offers bytes until all of them are taken.  `flushes` is the part of the sink that writing does
not touch. -/
def writeAll (flushes : List (Option Fault)) : List Step -> Bytes -> Handed
  | writes, [] => ⟨[], .ok (), ⟨writes, flushes⟩⟩
  | [], bytes => ⟨[.write bytes (.ok bytes.length)], .ok (), ⟨[], flushes⟩⟩
  | .all :: writes, bytes => ⟨[.write bytes (.ok bytes.length)], .ok (), ⟨writes, flushes⟩⟩
  | .atMost limit :: writes, bytes =>
      let count := min limit bytes.length
      if count = 0 then ⟨[.write bytes (.ok 0)], .error Fault.writeZero, ⟨writes, flushes⟩⟩
      else (writeAll flushes writes (bytes.drop count)).after [.write bytes (.ok count)]
  | .fault fault :: writes, bytes =>
      if fault.isInterrupted then
        (writeAll flushes writes bytes).after [.write bytes (.error fault)]
      else ⟨[.write bytes (.error fault)], .error fault, ⟨writes, flushes⟩⟩

def flush (sink : Sink) : Handed :=
  let rest := { sink with flushes := sink.flushes.drop 1 }
  match sink.flushes.head? with
  | some (some fault) => ⟨[.flush (.error fault)], .error fault, rest⟩
  | _ => ⟨[.flush (.ok ())], .ok (), rest⟩

/-- Hands one line to the sink and makes it visible. -/
def forward (sink : Sink) (line : Bytes) : Handed :=
  let written := writeAll sink.flushes sink.writes line
  match written.outcome with
  | .ok _ => written.sink.flush.after written.events
  | .error _ => written

end Sink

end Stream
end AstLink
