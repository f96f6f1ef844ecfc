import AstLink.Machine.Utility.Naming

namespace AstLink
namespace Machine
namespace Utility

/-!
What programs have in common that make, move and remove files: how they complain, how they ask
before they lose something, where their operands lead, and how they keep what would be lost.
-/

/-- How deep directories lie within one another at most. -/
def maxDepth : Nat := 4096

/-- Complains and has the program fail. -/
def reject (text : Chars) : Task Unit := do
  Task.complain text
  Task.setStatus 1

/-- A complaint that something cannot be done with a file. -/
def cannot (what : String) (path : Chars) (obstacle : Obstacle) : Task Unit :=
  reject ((what ++ " ").toList ++ marked path ++ ": ".toList ++ obstacle.text.toList)

/-- A complaint that something cannot be done with two files. -/
def cannotBoth (what : String) (first : Chars) (between : String) (second : Chars)
    (obstacle : Obstacle) : Task Unit :=
  reject
    ((what ++ " ").toList ++ marked first ++ between.toList ++ marked second ++ ": ".toList ++
      obstacle.text.toList)

/-- A complaint that two paths lead to the same file. -/
def areSame (source target : Chars) : Task Unit :=
  reject (marked source ++ " and ".toList ++ marked target ++ " are the same file".toList)

/-- Refuses to go on without operands. -/
def needOperands (operands : List Chars) (missing : String) : Task Unit := do
  if operands.isEmpty then Task.misuse 1 missing.toList

def under (directory name : Chars) : Chars :=
  if directory.getLast? = some '/' then directory ++ name else directory ++ '/' :: name

/-- Whether a name is that of a directory itself or of the one above it. -/
def isDots (name : Chars) : Bool := name = ['.'] || name = ['.', '.']

def isDirectory (path : Chars) (follow : Bool) : Task Bool := do
  match ← Work.inspect path follow with
  | .ok info => return info.sort = .directory
  | .error _ => return false

def isMissing (obstacle : Obstacle) : Bool := obstacle = .noEntry || obstacle = .noDirectory

/-- Asks a question; the answer is yes if it begins so. -/
def confirm (question : Chars) : Task Bool := do
  Task.complainText ((← get).name ++ ": ".toList ++ question ++ "? ".toList)
  match ← Work.expectText (.readLine 0) with
  | .ok (char :: _) => return char = 'y' || char = 'Y'
  | _ => return false

/-! ## Where operands lead -/

/-- Operands with the directory into which they go, if there is one. -/
structure Targets where
  sources : List Chars
  directory : Option Chars
  /-- The path that takes the place of the only source, if there is no directory. -/
  target : Chars := []

/-- Each source with its path in the end. -/
def Targets.pairs (targets : Targets) : List (Chars × Chars) :=
  targets.sources.map (fun source =>
    match targets.directory with
    | some directory => (source, under directory (lastName source))
    | none => (source, targets.target))

/-- Refuses to go on with something that is no directory. -/
def needDirectory (what : String) (path : Chars) : Task Unit := do
  let fail (obstacle : Obstacle) : Task Unit :=
    Task.fail 1 ((what ++ " ").toList ++ marked path ++ ": ".toList ++ obstacle.text.toList)
  match ← Work.inspect path true with
  | .error obstacle => fail obstacle
  | .ok info => if info.sort != .directory then fail .noDirectory

/-- The places to which operands lead.  `directory` is the one that was asked for, `plain` says that
the last operand is not one, and `followed` whether a link to one counts. -/
def targetsOf (operands : List Chars) (directory : Option Chars) (plain followed : Bool) :
    Task Targets := do
  let missing (first : Chars) : Task Targets :=
    Task.misuse 1 ("missing destination file operand after ".toList ++ marked first)
  match operands with
  | [] => Task.misuse 1 "missing file operand".toList
  | first :: rest =>
      if plain then
        if directory.isSome then
          Task.fail 1
            ("cannot combine --target-directory (-t) and " ++
              "--no-target-directory (-T)").toList
        match rest with
        | [] => missing first
        | [target] => return ⟨[first], none, target⟩
        | _ :: extra :: _ => Task.misuse 1 ("extra operand ".toList ++ marked extra)
      else
        match directory, rest with
        | some directory, _ =>
            needDirectory "target directory" directory
            return ⟨operands, some directory, []⟩
        | none, [] => missing first
        | none, [target] =>
            if (← isDirectory target true) && (followed || (← isDirectory target false)) then
              return ⟨[first], some target, []⟩
            else return ⟨[first], none, target⟩
        | none, _ =>
            let target := (rest.getLast?).getD []
            needDirectory "target" target
            return ⟨operands.dropLast, some target, []⟩

/-! ## Keeping what would be lost -/

/-- How a file is kept that would be lost. -/
inductive Keeping where
  /-- Under its name with something behind it. -/
  | simple
  /-- Under its name with the next number. -/
  | numbered
  /-- With a number if another is kept so. -/
  | existing
  deriving DecidableEq, Repr

def keepings : List (List String) :=
  [["none", "off"], ["simple", "never"], ["existing", "nil"], ["numbered", "t"]]

/-- The options that say how files are kept. -/
def keepingFlags : List Flag :=
  [flag 'b' [], { letter := '\x02', names := ["backup"], giving := .wordIfJoined },
    given 'S' ["suffix"]]

/-- How files are kept, as options say, and what stands behind their names. -/
def keepingOf (arguments : Arguments) : Task (Option Keeping × Chars) := do
  let ending := ((arguments.value? 'S').filter (fun ending => !ending.contains '/')).getD ['~']
  let keeping ←
    match arguments.value? '\x02' with
    | some word =>
        let choice ← choose 1 "backup type".toList keepings word
        pure ([none, some Keeping.simple, some .existing, some .numbered][choice]?).join
    | none =>
        if ['b', 'S', '\x02'].any arguments.has then pure (some .existing) else pure none
  return (keeping, ending)

/-- The highest number under which a file is kept. -/
def lastKept (path : Chars) : Task Nat := do
  match ← Work.names (beforeLast path) with
  | .error _ => return 0
  | .ok names =>
      let start := lastName path ++ ['.', '~']
      let numbers := names.filterMap (fun name =>
        let digits := (name.drop start.length).dropLast
        if start.isPrefixOf name && name.getLast? = some '~' && Chars.isNumber digits then
          some (Chars.digitsValue digits)
        else none)
      return numbers.foldl max 0

def keptPath (keeping : Keeping) (ending path : Chars) : Task Chars := do
  let number ← lastKept path
  if keeping = .numbered || (keeping = .existing && 0 < number) then
    return path ++ ".~".toList ++ Chars.ofNat (number + 1) ++ ['~']
  else return path ++ ending

end Utility
end Machine
end AstLink
