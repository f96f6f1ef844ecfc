import AstLink.Machine.Chars
import AstLink.Machine.Obstacle
import AstLink.Machine.Tool
import AstLink.Path

namespace AstLink
namespace Machine

/-!
File trees.  A tree lists what there is by the names that lead to it from the root.  A path is
followed name by name, and every name but the last must be that of a directory or of a link to
one.  What a file holds is kept apart from its name, so that a file can have several names, and can
be written on by a program that opened it after its last name is gone.
-/

/-- A place in a file tree: the names on the way to it from the root. -/
abbrev Place := List Bytes

inductive Device where
  /-- Takes everything and holds nothing. -/
  | null
  /-- Takes everything and holds NULs without end. -/
  | zero
  /-- Has no room left; it holds NULs without end. -/
  | full
  | terminal
  deriving DecidableEq, Repr

/-- What there is at a place. -/
inductive Node where
  | directory (mode : Nat)
  | file (number : Nat)
  | link (target : Bytes)
  | program (tool : Tool)
  | device (device : Device)
  | pipe (number mode : Nat)
  /-- Whatever a process has open under a descriptor. -/
  | descriptor (number : Nat)
  deriving DecidableEq, Repr

structure File where
  content : Bytes
  /-- Who may do what with the file, as nine bits. -/
  mode : Nat
  changed : Nat := 0

structure Tree where
  entries : List (Place × Node)
  files : List (Nat × File) := []
  next : Nat := 0

namespace Tree

/-- The longest name that a directory takes. -/
def maxName : Nat := 255

/-- The longest path that the machine follows, with the byte that ends it. -/
def maxPath : Nat := 4096

/-- How many links are followed on the way along a path. -/
def maxLinks : Nat := 40

def runBits : Nat := 0o111

def directoryMode : Nat := 0o755

def node? (tree : Tree) (place : Place) : Option Node :=
  if place.isEmpty then some (.directory directoryMode) else tree.entries.lookup place

def file (tree : Tree) (number : Nat) : File := (tree.files.lookup number).getD ⟨[], 0, 0⟩

def setFile (tree : Tree) (number : Nat) (file : File) : Tree :=
  { tree with files := (number, file) :: tree.files.filter (fun entry => entry.1 != number) }

/-- The place that names lead to from another place.  The last name need not exist; `follow` says
whether a link under the last name is followed, and `links` how many links still may be. -/
def walk (tree : Tree) (follow : Bool) :
    Nat -> Nat -> Place -> List Bytes -> Except Obstacle Place
  | 0, _, _, _ => .error .tooManyLevels
  | _, _, place, [] => .ok place
  | bound + 1, links, place, name :: names =>
      match tree.node? place with
      | none => .error .noEntry
      | some (.directory _) =>
          if name = [] ∨ name = Path.hereName then tree.walk follow bound links place names
          else if name = Path.upName then tree.walk follow bound links place.dropLast names
          else if maxName < name.length then .error .nameTooLong
          else
            match tree.node? (place ++ [name]) with
            | some (.link target) =>
                if names.isEmpty && !follow then .ok (place ++ [name])
                else if links = 0 then .error .tooManyLevels
                else
                  let start := if target.head? = some Bytes.slash then [] else place
                  tree.walk follow bound (links - 1) start
                    (Bytes.splitOn Bytes.slash target ++ names)
            | _ => tree.walk follow bound links (place ++ [name]) names
      | some _ => .error .noDirectory

def place (tree : Tree) (working : Place) (path : Bytes) (follow : Bool) :
    Except Obstacle Place :=
  if path.isEmpty then .error .noEntry
  else if maxPath ≤ path.length then .error .nameTooLong
  else
    let start := if path.head? = some Bytes.slash then [] else working
    tree.walk follow (maxPath * (maxLinks + 1)) maxLinks start (Bytes.splitOn Bytes.slash path)

def find (tree : Tree) (working : Place) (path : Bytes) (follow : Bool) :
    Except Obstacle (Place × Node) := do
  let place ← tree.place working path follow
  match tree.node? place with
  | some node => return (place, node)
  | none => throw .noEntry

def put (tree : Tree) (place : Place) (node : Node) : Tree :=
  { tree with
    entries := (place, node) :: tree.entries.filter (fun entry => entry.1 != place) }

def putFile (tree : Tree) (place : Place) (file : File) : Tree :=
  let number := tree.next
  { (tree.put place (.file number)).setFile number file with next := number + 1 }

def putDirectories (tree : Tree) (place : Place) : Tree :=
  (List.range (place.length + 1)).foldl
    (fun tree count =>
      let place := place.take count
      if (tree.node? place).isNone then tree.put place (.directory directoryMode) else tree)
    tree

def erase (tree : Tree) (place : Place) : Tree :=
  { tree with entries := tree.entries.filter (fun entry => entry.1 != place) }

def move (tree : Tree) (source target : Place) : Tree :=
  let others := tree.entries.filter (fun entry => entry.1 != target)
  { tree with
    entries := others.map (fun (place, node) =>
      if source.isPrefixOf place then (target ++ place.drop source.length, node)
      else (place, node)) }

def nameBefore (a b : Bytes) : Bool := decide (a ≤ b)

def names (tree : Tree) (place : Place) : List Bytes :=
  let names := tree.entries.filterMap (fun entry =>
    if entry.1.length = place.length + 1 && place.isPrefixOf entry.1 then entry.1.getLast?
    else none)
  names.mergeSort nameBefore

/-- How many names a file has. -/
def linkCount (tree : Tree) (number : Nat) : Nat :=
  (tree.entries.filter (fun entry => entry.2 = .file number)).length

def directoryCount (tree : Tree) (place : Place) : Nat :=
  let isBelow (entry : Place × Node) : Bool :=
    match entry.2 with
    | .directory _ => entry.1.length = place.length + 1 && place.isPrefixOf entry.1
    | _ => false
  (tree.entries.filter isBelow).length

/-! ## The tree of a machine -/

def placeOf (path : String) : Place :=
  (Bytes.splitOn Bytes.slash (Text.bytes path)).filter (fun name => !name.isEmpty)

def programDirectory : Place := placeOf "usr/bin"

def usualDirectories : List String :=
  ["boot", "dev", "etc", "home", "media", "mnt", "opt", "proc", "root", "run", "srv", "sys", "tmp",
    "usr", "usr/bin", "usr/games", "usr/include", "usr/lib", "usr/local", "usr/local/bin",
    "usr/local/lib", "usr/local/sbin", "usr/sbin", "usr/share", "usr/src", "var", "var/tmp"]

def usualLinks : List (String × String) :=
  [("bin", "usr/bin"), ("lib", "usr/lib"), ("sbin", "usr/sbin")]

/-- The devices, and the names for what a process has open. -/
def usualDevices : List (String × Node) :=
  [("dev/null", .device .null), ("dev/zero", .device .zero), ("dev/full", .device .full),
    ("dev/tty", .device .terminal), ("dev/stdin", .descriptor 0), ("dev/stdout", .descriptor 1),
    ("dev/stderr", .descriptor 2), ("dev/fd", .directory directoryMode),
    ("dev/fd/0", .descriptor 0), ("dev/fd/1", .descriptor 1), ("dev/fd/2", .descriptor 2),
    ("dev/fd/3", .descriptor 3), ("dev/fd/4", .descriptor 4), ("dev/fd/5", .descriptor 5)]

/-- The tree of a machine without any files of its own. -/
def system : Tree where
  entries :=
    usualDirectories.map (fun path => (placeOf path, .directory directoryMode)) ++
      usualLinks.map (fun (path, target) => (placeOf path, .link (Text.bytes target))) ++
      usualDevices.map (fun (path, node) => (placeOf path, node)) ++
      Tool.named.map (fun (name, tool) => (programDirectory ++ [Text.bytes name], .program tool))

end Tree

end Machine
end AstLink
