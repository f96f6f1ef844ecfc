import AstLink.Machine.Utility.Files

namespace AstLink
namespace Machine
namespace Utility
namespace Paths

/-!
`readlink` and `realpath`, which write where links lead.

A path is *canonical* if it begins at the root and has no links, no dots and no empty names in it.
-/

/-- What must be there for a path to be made canonical. -/
inductive Need where
  | everything
  | allButLast
  | nothing
  deriving DecidableEq, Repr

/-- How many steps are made along a path at most. -/
def maxSteps : Nat := 100000

/-- The path that names lead to from the root. -/
def ofNames (names : List Chars) : Chars := '/' :: Chars.join ['/'] names

def namesOf (path : Chars) : List Chars :=
  (Chars.splitOn '/' path).filter (fun name => !name.isEmpty)

/-- Follows names from the place that others lead to.  The numbers are how many steps and how many
links there may still be; `links` says whether links are followed at all. -/
def follow (need : Need) (links : Bool) :
    Nat -> Nat -> List Chars -> List Chars -> Task (Except Obstacle (List Chars))
  | 0, _, _, _ => return .error .tooManyLevels
  | _, _, done, [] => return .ok done
  | bound + 1, left, done, name :: names => do
      if name.isEmpty || name = ['.'] then follow need links bound left done names
      else if name = ['.', '.'] then follow need links bound left done.dropLast names
      else
        let here := done ++ [name]
        let goOn : Task (Except Obstacle (List Chars)) := follow need links bound left here names
        match ← Work.inspect (ofNames here) (!links) with
        | .ok { sort := .link, .. } =>
            if left = 0 then
              if need = .nothing then goOn else return .error .tooManyLevels
            else
              let target := (← Work.expectText (.readLink (ofNames here))).toOption.getD []
              let start := if target.head? = some '/' then [] else done
              follow need links bound (left - 1) start (Chars.splitOn '/' target ++ names)
        | .ok info =>
            if info.sort = .directory || names.isEmpty || need = .nothing then goOn
            else return .error .noDirectory
        | .error obstacle =>
            let isLast := names.all List.isEmpty
            if need = .nothing || (need = .allButLast && obstacle = .noEntry && isLast) then goOn
            else return .error obstacle

def canonical (need : Need) (links : Bool) (path : Chars) : Task (Except Obstacle Chars) := do
  if path.isEmpty then return .error .noEntry
  let working := ((← Work.expectText .working).toOption).getD ['/']
  let start := if path.head? = some '/' then [] else namesOf working
  match ← follow need links maxSteps Tree.maxLinks start (Chars.splitOn '/' path) with
  | .ok names => return .ok (ofNames names)
  | .error obstacle => return .error obstacle

/-- The place of a name: the directory that it is in, canonical as far as can be, and the name
itself. -/
abbrev Spot := Chars × Chars

/-- The place of the last name of a path. -/
def spot (path : Chars) : Task Spot := do
  let directory := beforeLast path
  let found ← canonical .allButLast true directory
  return (found.toOption.getD directory, lastName path)

def common : List Chars -> List Chars -> Nat
  | a :: as, b :: bs => if a = b then common as bs + 1 else 0
  | _, _ => 0

def relative (directory path : Chars) : Chars :=
  let (start, goal) := (namesOf directory, namesOf path)
  let shared := common start goal
  let names := List.replicate (start.length - shared) ['.', '.'] ++ goal.drop shared
  if names.isEmpty then ['.'] else Chars.join ['/'] names

/-- Whether a canonical path lies in a canonical directory. -/
def isWithin (directory path : Chars) : Bool := (namesOf directory).isPrefixOf (namesOf path)

/-- What must be there, as options say. -/
def needOf (arguments : Arguments) (otherwise : Need) : Need :=
  match arguments.last? "efm" with
  | some 'e' => .everything
  | some 'm' => .nothing
  | some _ => .allButLast
  | none => otherwise

def readLinks (words : List Chars) : Task Unit := do
  let flags :=
    [flag 'f' ["canonicalize"], flag 'e' ["canonicalize-existing"],
      flag 'm' ["canonicalize-missing"], flag 'n' ["no-newline"], flag 'q' ["quiet"],
      flag 's' ["silent"], flag 'v' ["verbose"], flag 'z' ["zero"]]
  let arguments ← readArguments { flags } words
  needOperands arguments.operands "missing operand"
  let mute := arguments.has 'n'
  if mute && 1 < arguments.operands.length then
    Task.complain "ignoring --no-newline with multiple arguments".toList
  let ending := if mute && arguments.operands.length = 1 then [] else terminator arguments
  let whole := ['f', 'e', 'm'].any arguments.has
  for path in arguments.operands do
    let result ←
      if whole then canonical (needOf arguments .allButLast) true path
      else Work.expectText (.readLink path)
    match result with
    | .ok text => Task.say (text ++ ending)
    | .error obstacle =>
        if arguments.last? "qsv" = some 'v' then complainOf path obstacle
        Task.setStatus 1

/-- A directory that an option names, canonical. -/
def directoryOf (need : Need) (links : Bool) (path : Chars) : Task Chars := do
  let fail (obstacle : Obstacle) : Task Chars :=
    Task.fail 1 (shownName path ++ ": ".toList ++ obstacle.text.toList)
  match ← canonical need links path with
  | .error obstacle => fail obstacle
  | .ok found =>
      if need = .everything && !(← isDirectory found true) then fail .noDirectory
      else return found

def realPaths (words : List Chars) : Task Unit := do
  let flags :=
    [flag 'e' ["canonicalize-existing"], flag 'm' ["canonicalize-missing"], flag 'L' ["logical"],
      flag 'P' ["physical"], flag 's' ["strip", "no-symlinks"], flag 'q' ["quiet"],
      flag 'z' ["zero"], given '\x01' ["relative-to"], given '\x02' ["relative-base"]]
  let arguments ← readArguments { flags } words
  needOperands arguments.operands "missing operand"
  let need := needOf arguments .allButLast
  let links := !((arguments.last? "sP") = some 's')
  let base? ← (arguments.value? '\x02').mapM (directoryOf need links)
  let start? ← (arguments.value? '\x01').mapM (directoryOf need links)
  let (start?, base?) :=
    match start?, base? with
    | none, base? => (base?, base?)
    | start?, none => (start?, none)
    | some start, some base => if isWithin base start then (some start, some base) else (none, none)
  for path in arguments.operands do
    match ← canonical need links path with
    | .error obstacle =>
        if !(arguments.has 'q') then complainOf path obstacle
        Task.setStatus 1
    | .ok found =>
        let shown :=
          match start?, base? with
          | some start, some base => if isWithin base found then relative start found else found
          | some start, none => relative start found
          | none, _ => found
        Task.say (shown ++ terminator arguments)

end Paths
end Utility
end Machine
end AstLink
