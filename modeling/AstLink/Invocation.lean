import AstLink.Path
import AstLink.Text.ShellWord
import AstLink.Text.Utf8

namespace AstLink

/-!
A merge invocation: what is to be merged, by which compiler, into what.

The compiler is run as its own front end on no source file; it loads the libraries, merges them
and writes the result as a precompiled header.  The placeholder is the source path that a build
system puts into a link command.  It is remembered and appears in no argument.

`argv` is an encoding: `ofArgv?` reads the compiler, the target and the libraries back from it,
also where one of them looks like a flag.
-/

/-- One merge.  Equality is field by field, and paths are compared by their components. -/
structure Invocation where
  compiler : Path
  target : Path
  placeholder : Path
  libraries : List Path
  deriving BEq, Repr

namespace Invocation

def frontEndFlag : Bytes := Text.bytes "-cc1"

def headerFlag : Bytes := Text.bytes "-emit-pch"

def outputFlag : Bytes := Text.bytes "-o"

def mergeFlag : Bytes := Text.bytes "-ast-merge"

def libraryArgs (libraries : List Path) : List Bytes :=
  libraries.flatMap (fun library => [mergeFlag, library.bytes])

def compilerArgs (invocation : Invocation) : List Bytes :=
  frontEndFlag :: headerFlag :: outputFlag :: invocation.target.bytes ::
    libraryArgs invocation.libraries

def argv (invocation : Invocation) : List Bytes :=
  invocation.compiler.bytes :: invocation.compilerArgs

/-- The command as a shell would take it, for people to read.  Malformed text is shown with
replacement characters, so the line is exact only where every argument is UTF-8. -/
def display (invocation : Invocation) : String :=
  String.ofList (Text.ShellWord.join (invocation.argv.map Text.Utf8.lossy))

/-! ## Reading a command back -/

/-- The libraries that a list of arguments loads, or nothing when it is not of that form. -/
def librariesOfArgs? : List Bytes -> Option (List Path)
  | [] => some []
  | flag :: library :: rest =>
      if flag = mergeFlag then (librariesOfArgs? rest).map (fun libraries => ⟨library⟩ :: libraries)
      else none
  | [_] => none

/-- The invocation whose command is given.  The command says nothing about the placeholder, so
that is supplied. -/
def ofArgv? (placeholder : Path) : List Bytes -> Option Invocation
  | compiler :: frontEnd :: header :: output :: target :: rest =>
      if frontEnd = frontEndFlag ∧ header = headerFlag ∧ output = outputFlag then
        (librariesOfArgs? rest).map (fun libraries =>
          { compiler := ⟨compiler⟩, target := ⟨target⟩, placeholder, libraries })
      else none
  | _ => none

end Invocation

end AstLink
