import AstLink.Machine.Activity

namespace AstLink
namespace Machine

/-!
Work: the way in which programs are written.  A piece of work has a state of its own, may break off
with a reason, and may make requests of the machine.  It is given what is to be done after it and
yields the activity of the process from here on; so a piece of work that waits for an answer is
simply an activity that has not been resumed.
-/

/-- Work with a state of type `σ`, which may break off with a reason of type `ε`. -/
def Work (σ ε α : Type) : Type := σ -> (Except ε α -> σ -> Activity) -> Activity

namespace Work

variable {σ ε α β : Type}

def pure (value : α) : Work σ ε α := fun state next => next (.ok value) state

def bind (first : Work σ ε α) (second : α -> Work σ ε β) : Work σ ε β := fun state next =>
  first state (fun result state =>
    match result with
    | .ok value => second value state next
    | .error reason => next (.error reason) state)

/-- Breaks off. -/
def fail (reason : ε) : Work σ ε α := fun state next => next (.error reason) state

/-- Goes on after work that broke off. -/
def rescue (first : Work σ ε α) (second : ε -> Work σ ε α) : Work σ ε α := fun state next =>
  first state (fun result state =>
    match result with
    | .ok value => next (.ok value) state
    | .error reason => second reason state next)

def get : Work σ ε σ := fun state next => next (.ok state) state

def set (state : σ) : Work σ ε Unit := fun _ next => next (.ok ()) state

def modifyGet (change : σ -> α × σ) : Work σ ε α := fun state next =>
  let (value, state) := change state
  next (.ok value) state

instance : Monad (Work σ ε) where
  pure := pure
  bind := bind

instance : MonadExceptOf ε (Work σ ε) where
  throw := fail
  tryCatch := rescue

instance : MonadStateOf σ (Work σ ε) where
  get := get
  set := set
  modifyGet := modifyGet

instance : Inhabited (Work σ ε α) where
  default := fun _ _ => .finished (.exit 0)

/-- What came of a piece of work that may have broken off. -/
def outcome (work : Work σ ε α) : Work σ ε (Except ε α) := fun state next =>
  work state (fun result state => next (.ok result) state)

def request (request : Request) : Work σ ε Answer := fun state next =>
  .call request (fun answer => next (.ok answer) state)

def finish (ending : Ending) : Work σ ε α := fun _ _ => .finished ending

/-- The activity of work that is all a process does.  What it ends with is read off the result. -/
def activity (work : Work σ ε α) (state : σ) (ending : Except ε α -> σ -> Ending) : Activity :=
  work state (fun result state => .finished (ending result state))

/-- Starts a process that does a piece of work, beginning with the same state. -/
def fork (child : Work σ ε Unit) (ending : Except ε Unit -> σ -> Ending) :
    Work σ ε (Except Obstacle Nat) := fun state next =>
  .fork (child.activity state ending) (fun answer =>
    match answer with
    | .number process => next (.ok (.ok process)) state
    | .failed obstacle => next (.ok (.error obstacle)) state
    | _ => next (.ok (.error .noResource)) state)

/-! ## Requests -/

/-- An answer that says only whether the request was met. -/
def expectDone (wanted : Request) : Work σ ε (Except Obstacle Unit) := do
  match ← request wanted with
  | .failed obstacle => return .error obstacle
  | _ => return .ok ()

def expectNumber (wanted : Request) : Work σ ε (Except Obstacle Nat) := do
  match ← request wanted with
  | .number value => return .ok value
  | .failed obstacle => return .error obstacle
  | _ => return .error .invalid

def expectText (wanted : Request) : Work σ ε (Except Obstacle Chars) := do
  match ← request wanted with
  | .text text => return .ok text
  | .failed obstacle => return .error obstacle
  | _ => return .error .invalid

def read (descriptor count : Nat) : Work σ ε (Except Obstacle Chars) :=
  expectText (.read descriptor count)

def write (descriptor : Nat) (text : Chars) : Work σ ε (Except Obstacle Unit) :=
  if text.isEmpty then pure (.ok ()) else expectDone (.write descriptor text)

def openFile (path : Chars) (opening : Opening) : Work σ ε (Except Obstacle Nat) :=
  expectNumber (.openFile path opening)

def close (descriptor : Nat) : Work σ ε Unit := do
  let _ ← request (.close descriptor)

/-- What can be found out about a file. -/
def inspect (path : Chars) (follow : Bool) : Work σ ε (Except Obstacle Info) := do
  match ← request (.inspect path follow) with
  | .info info => return .ok info
  | .failed obstacle => return .error obstacle
  | _ => return .error .invalid

def inspectOpen (descriptor : Nat) : Work σ ε (Except Obstacle Info) := do
  match ← request (.inspectOpen descriptor) with
  | .info info => return .ok info
  | .failed obstacle => return .error obstacle
  | _ => return .error .invalid

def names (path : Chars) : Work σ ε (Except Obstacle (List Chars)) := do
  match ← request (.names path) with
  | .list names => return .ok names
  | .failed obstacle => return .error obstacle
  | _ => return .error .invalid

/-- How many bytes are read at once. -/
def portion : Nat := 131072

/-- How often work that has no other bound is repeated at most. -/
def bound : Nat := 1000000000

def readPortions (descriptor : Nat) (done : List Chars) :
    Nat -> Work σ ε (Except Obstacle (List Chars))
  | 0 => pure (.ok done)
  | bound + 1 => do
      match ← read descriptor portion with
      | .error obstacle => return .error obstacle
      | .ok [] => return .ok done
      | .ok text => readPortions descriptor (text :: done) bound

def readAll (descriptor : Nat) : Work σ ε (Except Obstacle Chars) := do
  match ← readPortions descriptor [] bound with
  | .error obstacle => return .error obstacle
  | .ok portions => return .ok portions.reverse.flatten

end Work

end Machine
end AstLink
