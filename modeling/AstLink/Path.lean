import AstLink.Bytes

namespace AstLink

/-!
Paths.  A path is kept byte for byte as it was given, and that is what a compiler receives.  Two
paths are equal when they have the same *components*: repeated and trailing slashes say nothing,
nor does a `.` that follows another component, while `..` and a leading `.` are kept.

`canonical` writes the components back as bytes, so that component equality can also be seen as
equality of byte strings.
-/

structure Path where
  bytes : Bytes
  deriving Repr

namespace Path

/-- One step of a path.  `root` and `here` stand at its beginning only. -/
inductive Component where
  | root
  | here
  | up
  | entry (name : Bytes)
  deriving DecidableEq, Repr

def hereName : Bytes := [Bytes.dot]

def upName : Bytes := [Bytes.dot, Bytes.dot]

/-- The component that a piece between slashes stands for after the first piece of a path.  An
empty piece and `.` stand for none. -/
def componentOf? (piece : Bytes) : Option Component :=
  if piece = [] ∨ piece = hereName then none
  else if piece = upName then some .up
  else some (.entry piece)

def components (path : Path) : List Component :=
  match Bytes.splitOn Bytes.slash path.bytes with
  | [] => []
  | first :: rest =>
      let start :=
        if first = hereName then [Component.here]
        else if first = [] ∧ rest ≠ [] then [Component.root]
        else (componentOf? first).toList
      start ++ rest.filterMap componentOf?

instance : BEq Path where
  beq a b := a.components == b.components

/-- The bytes of a component.  The root is written by the slash that follows it. -/
def Component.bytes : Component -> Bytes
  | .root => []
  | .here => hereName
  | .up => upName
  | .entry name => name

/-- The shortest path with given components, one slash between neighbours. -/
def ofComponents : List Component -> Path
  | [.root] => ⟨[Bytes.slash]⟩
  | components => ⟨((components.map Component.bytes).intersperse [Bytes.slash]).flatten⟩

/-- The canonical form of a path: its components, written with no slash or `.` to spare. -/
def canonical (path : Path) : Path := ofComponents path.components

/-- The name of the file that a path leads to.  A path that ends in the root, in `..` or in a
leading `.` names no file. -/
def fileName? (path : Path) : Option Bytes :=
  match path.components.getLast? with
  | some (.entry name) => some name
  | _ => none

end Path

end AstLink
