import AstLink.Machine.Kernel
import AstLink.Machine.Utility

namespace AstLink

/-!
A machine on which compilers run: files, a working directory, an environment and something to
read.  The compilers are scripts or small programs, and the machine carries them out, so that a
merge can be run and looked at without any process of the operating system.
-/

structure Machine where
  tree : Machine.Tree
  working : Machine.Place
  environment : List (Bytes × Bytes)
  input : Bytes

namespace Machine

def pathName : Bytes := Text.bytes "PATH"

def setting? (machine : Machine) (name : Bytes) : Option Bytes := machine.environment.lookup name

def searchPath (machine : Machine) : Bytes :=
  (machine.setting? pathName).getD Loader.defaultPath

/-- The place that a path names, seen from a working directory, whether or not anything is there. -/
def placeOf (working : Place) (path : Bytes) : Place :=
  let start := if path.head? = some Bytes.slash then [] else working
  (Bytes.splitOn Bytes.slash path).foldl
    (fun place name =>
      if name = [] ∨ name = Path.hereName then place
      else if name = Path.upName then place.dropLast
      else place ++ [name])
    start

def modeOf (executable : Bool) : Nat := if executable then 0o755 else 0o644

/-- The machine with a file put at a path, and the directories on the way to it. -/
def addFile (machine : Machine) (path content : Bytes) (executable : Bool) : Machine :=
  let place := placeOf machine.working path
  let tree := machine.tree.putDirectories place.dropLast
  { machine with tree := tree.putFile place { content, mode := modeOf executable } }

/-- How many further variables a machine has.  None of its programs looks at them, but they are
handed on and can be counted. -/
def furtherVariables : Nat := 37

/-- The variables that are set where nothing else is said. -/
def usualEnvironment : List (Bytes × Bytes) :=
  let further := (List.range furtherVariables).map (fun number =>
    (Text.bytes ("MACHINE_" ++ toString (number + 1)), Text.bytes "1"))
  [(pathName, Loader.defaultPath), (Text.bytes "HOME", Text.bytes "/root")] ++ further

/-- A machine without files of its own.  The variables given stand beside the usual ones, or instead
of them. -/
def empty (working : Place) (environment : List (Bytes × Bytes)) (input : Bytes) : Machine where
  tree := Tree.system.putDirectories working
  working := working
  environment :=
    usualEnvironment.filter (fun usual => environment.all (fun entry => entry.1 != usual.1)) ++
      environment
  input := input

/-- The working directory of a machine that is made for one run. -/
def home : Place := Tree.placeOf "tmp/work"

/-- A machine with files of its own in the working directory: for each file its path, its content
and whether it may be run. -/
def ofFiles (files : List (Bytes × Bytes × Bool)) (environment : List (Bytes × Bytes))
    (input : Bytes) : Machine :=
  files.foldl
    (fun machine (path, content, executable) => machine.addFile path content executable)
    (empty home environment input)

/-- The room that the environment takes beside the arguments of a command. -/
def environmentRoom (machine : Machine) : Nat :=
  Loader.environmentRoom (machine.environment.map (fun (name, value) => name.length + value.length))

def load (machine : Machine) (command : Command) : Except Obstacle Image := do
  let image ←
    Loader.loadCommand machine.tree machine.working machine.environmentRoom machine.searchPath
      command.program command.words
  return { image with environment := machine.environment }

/-- The machine with a program that it is about to run, and the number of its process. -/
def boot (machine : Machine) (image : Image) : World × Nat :=
  Kernel.start machine.tree machine.working (Chars.ofBytes machine.input) (Utility.activityOf image)

/-- The machine when it has answered so many requests of the program's processes. -/
def worldAfter (machine : Machine) (image : Image) (requests : Nat) : World :=
  Kernel.run Utility.activityOf requests (machine.boot image).1

/-- Runs a program to the end of all its processes. -/
def carryOut (machine : Machine) (image : Image) : Child :=
  let world := machine.worldAfter image Kernel.maxRequests
  let process := (machine.boot image).2
  Child.ofWrites process world.writes.reverse (Kernel.endingOf world process).status

def start (machine : Machine) (command : Command) : Except Fault Child :=
  match machine.load command with
  | .error obstacle => .error obstacle.fault
  | .ok image => .ok (machine.carryOut image)

/-- The machine as a host.  It can always make a pipe, and its processes can be waited for. -/
def host (machine : Machine) : Host := { start := machine.start }

end Machine

end AstLink
