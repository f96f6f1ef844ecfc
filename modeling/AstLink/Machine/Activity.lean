import AstLink.Machine.Chars
import AstLink.Machine.Obstacle
import AstLink.Machine.Signal
import AstLink.Machine.Tree

namespace AstLink
namespace Machine

/-!
What a process does, as the machine sees it: it makes requests, each of which the machine answers,
until it ends.  Between two requests a process is of no interest to anybody else, so an *activity*
is a request together with what the process goes on to do with each answer.

Starting another process is a request of its own kind, because the activity of the new process
belongs to it; the answer is the number of that process.
-/

inductive Ending where
  | exit (code : Nat)
  | signal (fatal : Signal.Fatal)
  deriving DecidableEq, Repr

namespace Ending

def code : Ending -> Nat
  | .exit code => code % 256
  | .signal fatal => 128 + fatal.number

def status : Ending -> WaitStatus
  | .exit code => WaitStatus.exited (UInt8.ofNat code)
  | .signal fatal => WaitStatus.killed (UInt8.ofNat fatal.number)

end Ending

structure Opening where
  reads : Bool := false
  writes : Bool := false
  appends : Bool := false
  creates : Bool := false
  /-- There must be no such file yet. -/
  exclusive : Bool := false
  truncates : Bool := false
  mode : Nat := 0o666
  deriving DecidableEq, Repr

inductive Anchor where
  | start
  | here
  | ending
  deriving DecidableEq, Repr

/-- What a process has arranged for a signal. -/
inductive Disposition where
  | standard
  | ignored
  | caught
  deriving DecidableEq, Repr

inductive FileSort where
  | file
  | directory
  | link
  | device
  | pipe
  deriving DecidableEq, Repr

structure Info where
  sort : FileSort
  mode : Nat
  size : Nat
  changed : Nat
  links : Nat
  identity : Nat
  deriving Repr

/-- What a process asks of the machine. -/
inductive Request where
  | rest
  | read (descriptor count : Nat)
  /-- What can be read up to the end of a line, or less if no more is there yet. -/
  | readLine (descriptor : Nat)
  | write (descriptor : Nat) (text : Chars)
  | seek (descriptor : Nat) (offset : Int) (anchor : Anchor)
  | truncate (descriptor size : Nat)
  | openFile (path : Chars) (opening : Opening)
  | close (descriptor : Nat)
  | duplicate (source target : Nat)
  /-- Gives a free descriptor, not below the one named, what another stands for.  Programs that are
  started do not get it. -/
  | duplicateAbove (source least : Nat)
  | pipe
  | inspect (path : Chars) (follow : Bool)
  | inspectOpen (descriptor : Nat)
  | names (path : Chars)
  | makeDirectory (path : Chars) (mode : Nat)
  | makePipe (path : Chars) (mode : Nat)
  | removeDirectory (path : Chars)
  | unlink (path : Chars)
  | rename (source target : Chars)
  | link (source target : Chars)
  | symbolicLink (target path : Chars)
  | readLink (path : Chars)
  | resolve (path : Chars)
  | changeMode (path : Chars) (mode : Nat)
  /-- Without a time, the present is meant. -/
  | changeTime (path : Chars) (time : Option Nat)
  | enter (path : Chars)
  | working
  /-- Which bits of a mode new files do not get.  The answer is the old value. -/
  | mask (value : Option Nat)
  /-- Waits for the end of a process that was started, of any if none is named. -/
  | wait (process : Option Nat) (patient : Bool)
  | execute (path : Chars) (words : List Chars) (environment : List (Chars × Chars))
  | send (signal : Nat) (process : Int)
  | arrange (signal : Nat) (disposition : Disposition)
  | disposition (signal : Nat)
  | caught
  | sleep (micros : Nat)
  | self
  | parent
  | clock
  deriving Repr

inductive Answer where
  | done
  | number (value : Nat)
  | pair (first second : Nat)
  | text (text : Chars)
  | list (texts : List Chars)
  | info (info : Info)
  | disposition (disposition : Disposition)
  | signals (signals : List Nat)
  | ended (process : Nat) (ending : Ending)
  | running
  | failed (obstacle : Obstacle)

/-- What a process goes on to do. -/
inductive Activity where
  | finished (ending : Ending)
  | call (request : Request) (resume : Answer -> Activity)
  | fork (child : Activity) (resume : Answer -> Activity)

instance : Inhabited Activity := ⟨.finished (.exit 0)⟩

end Machine
end AstLink
