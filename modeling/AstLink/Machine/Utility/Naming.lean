import AstLink.Machine.Utility.Console

namespace AstLink
namespace Machine
namespace Utility

/-!
Programs about names: the last part of a path, what stands before it, where a program is found, and
the name of the working directory.
-/

def trimSlashes (path : Chars) : Chars := Chars.trimEnd (fun char => char = '/') path

/-- The last name of a path.  A path of slashes is one slash. -/
def lastName (path : Chars) : Chars :=
  let bare := trimSlashes path
  if bare.isEmpty then path.take 1
  else (bare.reverse.takeWhile (fun char => char != '/')).reverse

def beforeLast (path : Chars) : Chars :=
  let bare := trimSlashes path
  if bare.isEmpty then if path.isEmpty then ['.'] else ['/']
  else if !bare.contains '/' then ['.']
  else
    let before := trimSlashes (bare.take (bare.length - (lastName bare).length))
    if before.isEmpty then ['/'] else before

def withoutEnding (ending name : Chars) : Chars :=
  if ending.length < name.length && ending.isSuffixOf name then
    name.take (name.length - ending.length)
  else name

/-- The character behind every name that is written. -/
def terminator (arguments : Arguments) : Chars := if arguments.has 'z' then ['\x00'] else ['\n']

/-- Writes the last names of paths. -/
def baseNames (words : List Chars) : Task Unit := do
  let flags := [flag 'a' ["multiple"], given 's' ["suffix"], flag 'z' ["zero"]]
  let arguments ← readArguments { flags, mixed := false } words
  let ending := terminator arguments
  let suffix := arguments.value? 's'
  match arguments.operands with
  | [] => Task.misuse 1 "missing operand".toList
  | first :: rest =>
      if arguments.has 'a' || suffix.isSome then
        for path in first :: rest do
          Task.say (withoutEnding (suffix.getD []) (lastName path) ++ ending)
      else
        match rest with
        | [] => Task.say (lastName first ++ ending)
        | [suffix] => Task.say (withoutEnding suffix (lastName first) ++ ending)
        | _ :: extra :: _ => Task.misuse 1 ("extra operand ".toList ++ marked extra)

/-- Writes what stands before the last names of paths. -/
def directoryNames (words : List Chars) : Task Unit := do
  let arguments ← readArguments { flags := [flag 'z' ["zero"]] } words
  if arguments.operands.isEmpty then Task.misuse 1 "missing operand".toList
  for path in arguments.operands do
    Task.say (beforeLast path ++ terminator arguments)

/-- Writes the name of the working directory.  With `-L` the name that the environment holds is
written, if it leads there without detours. -/
def workingName (words : List Chars) : Task Unit := do
  let flags := [flag 'L' ["logical"], flag 'P' ["physical"]]
  let arguments ← readArguments { flags } words
  if !arguments.operands.isEmpty then Task.complain "ignoring non-option arguments".toList
  let physical := ((← Work.expectText .working).toOption).getD ['/']
  let logical := ((← get).environment.lookup "PWD".toList).getD []
  let parts := Chars.splitOn '/' logical
  if arguments.last? "LP" = some 'L' && logical.head? = some '/' &&
      !parts.contains ['.'] && !parts.contains ['.', '.'] then
    let same := (← Work.expectText (.resolve logical)).toOption = some physical
    Task.line (if same then logical else physical)
  else Task.line physical

def isProgram (path : Chars) : Task Bool := do
  match ← Work.inspect path true with
  | .ok info => return info.sort = .file && info.mode &&& Tree.runBits != 0
  | .error _ => return false

/-- Reads the letters of options.  The result says whether all places of a program are asked for,
and whether nothing is written. -/
def readSwitches (all quiet : Bool) : List Chars -> Task (Bool × Bool × List Chars)
  | [] => return (all, quiet, [])
  | ['-', '-'] :: rest => return (all, quiet, rest)
  | ('-' :: letter :: letters) :: rest => do
      for letter in letter :: letters do
        if letter != 'a' && letter != 's' then
          let name := (← get).name
          Task.complainText ("Illegal option -".toList ++ [letter, '\n'])
          Task.say ("Usage: ".toList ++ name ++ " [-as] args\n".toList)
          Task.stop 2
      let letters := letter :: letters
      readSwitches (all || letters.contains 'a') (quiet || letters.contains 's') rest
  | words => return (all, quiet, words)

def findPrograms (words : List Chars) : Task Unit := do
  let (all, quiet, names) ← readSwitches false false words
  let directories := Chars.splitOn ':' (((← get).environment.lookup "PATH".toList).getD [])
  if names.isEmpty then Task.setStatus 1
  for name in names do
    let paths :=
      if name.contains '/' then [name]
      else
        directories.map (fun directory =>
          (if directory.isEmpty then ['.'] else directory) ++ '/' :: name)
    let mut found := false
    for path in paths do
      if (all || !found) && (← isProgram path) then
        found := true
        if !quiet then Task.line path
    if !found then Task.setStatus 1

end Utility
end Machine
end AstLink
