import AstLink.Machine.Tree

namespace AstLink
namespace Machine

/-!
From a command to a program of the machine.

A name without a slash is looked for in the directories of the search path, and nowhere else.  A
file that may not be run does not end the search, but is remembered.  The file found is then
loaded: a program of the machine is loaded as it is, while a file that begins with `#!` is a script
and its first line names the interpreter, with at most one argument, that is to be run on it.
-/

/-- A program that is ready to run: its words, and the variables that it is given. -/
structure Image where
  tool : Tool
  words : List Bytes
  environment : List (Bytes × Bytes) := []

namespace Loader

/-- How many bytes of a file are looked at to find out what it is. -/
def headSize : Nat := 256

/-- How many files may be loaded in a row, the program that ends the row included. -/
def maxDepth : Nat := 6

/-- The room for one argument, with the byte that ends it. -/
def maxArgument : Nat := 131072

/-- The room for all arguments and the environment, with a pointer to each. -/
def maxArguments : Nat := 2097152

/-- The room of an environment, given how long the names and values of its variables are together:
each variable also takes a sign between the two, the byte that ends it and a pointer. -/
def environmentRoom (lengths : List Nat) : Nat :=
  lengths.foldl (fun total length => total + length + 10) 0

/-- The directories in which programs are looked for when nothing is said about it. -/
def defaultPath : Bytes := Text.bytes "/usr/local/sbin:/usr/local/bin:/usr/sbin:/usr/bin:/sbin:/bin"

/-- The space between the words of a first line. -/
def space : UInt8 := 0x20

/-- The other blank of a first line. -/
def tab : UInt8 := 0x09

/-- Whether a byte separates the words of a first line. -/
def isGap (byte : UInt8) : Bool := byte = space || byte = tab

def isEnd (byte : UInt8) : Bool := isGap byte || byte = Bytes.nul

def trimEnd (bytes : Bytes) : Bytes := (bytes.reverse.dropWhile isGap).reverse

/-- The first `headSize` bytes of a file, filled up with NULs. -/
def head (content : Bytes) : Bytes :=
  let head := content.take headSize
  head ++ List.replicate (headSize - head.length) Bytes.nul

/-- What the first line of a script says after its `#!`.  A line that does not end within the
beginning of the file is cut there, one byte early; but the name of the interpreter must have
ended by then. -/
def firstLine? (content : Bytes) : Option Bytes :=
  match head content with
  | 0x23 :: 0x21 :: body =>
      let isText := fun byte => byte != Bytes.newline && byte != Bytes.nul
      if (body.dropWhile isText).head? = some Bytes.newline then
        some (trimEnd (body.takeWhile isText))
      else if (body.dropWhile isGap).any isEnd then some (trimEnd body.dropLast)
      else none
  | _ => none

/-- The interpreter that the beginning of a script names, and its argument if it has one.  A NUL
ends either of them. -/
def interpreter? (content : Bytes) : Option (Bytes × Option Bytes) := do
  let line ← firstLine? content
  let line := line.dropWhile isGap
  if line.isEmpty then none
  let name := line.takeWhile (fun byte => !isEnd byte)
  let argument :=
    match line.dropWhile (fun byte => !isEnd byte) with
    | [] => none
    | byte :: rest =>
        let rest := rest.dropWhile isGap
        if byte = Bytes.nul || rest.isEmpty then none
        else some (rest.takeWhile (fun byte => byte != Bytes.nul))
  return (name, argument)

/-- Refuses a file that may not be run. -/
def executable (tree : Tree) (working : Place) (path : Bytes) : Except Obstacle Node := do
  match ← tree.find working path true with
  | (_, .program tool) => return .program tool
  | (_, .file number) =>
      if (tree.file number).mode &&& Tree.runBits = 0 then throw .noAccess
      else return .file number
  | _ => throw .noAccess

/-- Refuses words that take more room than there is.  `environment` is the room of the rest. -/
def checkRoom (environment : Nat) (words : List Bytes) : Except Obstacle Unit :=
  let total := words.foldl (fun total word => total + word.length + 9) environment
  if words.any (fun word => maxArgument ≤ word.length) || maxArguments < total then
    .error .argumentsTooLong
  else .ok ()

/-- Loads a file that may be run.  `depth` is how many files may still be loaded. -/
def loadNode (tree : Tree) (working : Place) (path : Bytes) (words : List Bytes) :
    Nat -> Node -> Except Obstacle Image
  | 0, _ => .error .tooManyLevels
  | _ + 1, .program tool =>
      .ok { tool, words := if tool.isScript then path :: words.drop 1 else words }
  | depth + 1, .file number =>
      match interpreter? (tree.file number).content with
      | none => .error .noProgram
      | some ([], _) => .error .noAccess
      | some (interpreter, argument) => do
          let node ← executable tree working interpreter
          let words := interpreter :: argument.toList ++ path :: words.drop 1
          loadNode tree working interpreter words depth node
  | _ + 1, _ => .error .noAccess

def load (tree : Tree) (working : Place) (environment : Nat) (path : Bytes) (words : List Bytes) :
    Except Obstacle Image := do
  let node ← executable tree working path
  checkRoom environment words
  loadNode tree working path words maxDepth node

def goesOn (obstacle : Obstacle) : Bool :=
  obstacle = .noEntry || obstacle = .noDirectory || obstacle = .noAccess

/-- Tries the paths in which a name is looked for, one after another.  `refused` says that one of
them was a file that may not be run. -/
def search (attempt : Bytes -> Except Obstacle Image) (refused : Bool) :
    List Bytes -> Except Obstacle Image
  | [] => .error (if refused then .noAccess else .noEntry)
  | path :: paths =>
      match attempt path with
      | .ok image => .ok image
      | .error obstacle =>
          if goesOn obstacle then search attempt (refused || obstacle = .noAccess) paths
          else .error obstacle

/-- The paths in which a name is looked for.  An empty directory is the working directory. -/
def candidates (searchPath : Bytes) (name : Bytes) : List Bytes :=
  (Bytes.splitOn 0x3a searchPath).map (fun directory =>
    if directory.isEmpty then name else directory ++ Bytes.slash :: name)

def loadCommand (tree : Tree) (working : Place) (environment : Nat) (searchPath : Bytes)
    (name : Bytes) (words : List Bytes) : Except Obstacle Image :=
  if name.isEmpty then .error .noEntry
  else if name.contains Bytes.slash then load tree working environment name words
  else if Tree.maxName < name.length then .error .nameTooLong
  else
    search (fun path => load tree working environment path words) false
      (candidates searchPath name)

end Loader

end Machine
end AstLink
