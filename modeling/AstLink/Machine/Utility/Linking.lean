import AstLink.Machine.Utility.Paths

namespace AstLink
namespace Machine
namespace Utility
namespace Linking

/-!
`ln`, which gives files other names and makes links to paths.
-/

/-- How links are made. -/
structure Manner where
  symbolic : Bool
  relative : Bool
  follow : Bool
  directories : Bool
  forced : Bool
  asks : Bool
  keeping : Option Keeping
  ending : Chars
  verbose : Bool

/-- Why a link was not made. -/
def report (manner : Manner) (source target : Chars) (obstacle : Obstacle) : Task Unit :=
  if manner.symbolic then
    if source.isEmpty then
      cannotBoth "failed to create symbolic link" target " -> " source obstacle
    else cannot "failed to create symbolic link" target obstacle
  else if [Obstacle.isThere, .noSpace].contains obstacle then
    cannot "failed to create hard link" target obstacle
  else cannotBoth "failed to create hard link" target " => " source obstacle

def isItself (manner : Manner) (source target : Chars) : Task Bool := do
  match ← Work.inspect source (manner.symbolic || manner.follow), ← Work.inspect target false with
  | .ok info, .ok there =>
      let same := info.identity = there.identity && info.identity != 0
      return same && (info.links = 1 || (← Paths.spot source) = (← Paths.spot target))
  | _, _ => return false

/-- Makes room where something is already.  The result says whether to go on, and under which path
it was kept. -/
def makeRoom (manner : Manner) (created : List Paths.Spot) (source target : Chars) :
    Task (Bool × Option Chars) := do
  let mayReplace := manner.forced || manner.asks || manner.keeping.isSome
  match ← Work.inspect target false with
  | .error _ => return (true, none)
  | .ok there =>
      if !mayReplace then return (true, none)
      if there.sort = .directory then
        reject (shownName target ++ ": cannot overwrite directory".toList)
        return (false, none)
      if created.contains (← Paths.spot target) then
        reject
          ("will not overwrite just-created ".toList ++ marked target ++ " with ".toList ++
            marked source)
        return (false, none)
      let guarded := manner.forced || manner.keeping.isSome
      if guarded && !(manner.keeping.isSome && manner.symbolic) &&
          (← isItself manner source target) then
        areSame source target
        return (false, none)
      if manner.asks then
        if !(← confirm ("replace ".toList ++ marked target)) then
          Task.setStatus 1
          return (false, none)
      match manner.keeping with
      | some keeping =>
          let kept ← keptPath keeping manner.ending target
          match ← Work.expectDone (.rename target kept) with
          | .ok _ => return (true, some kept)
          | .error obstacle =>
              cannot "cannot backup" target obstacle
              return (false, none)
      | none =>
          let _ ← Work.request (.unlink target)
          return (true, none)

/-- Makes a link.  The result says whether there is one now. -/
def make (manner : Manner) (created : List Paths.Spot) (source target : Chars) : Task Bool := do
  if !manner.symbolic then
    match ← Work.inspect source manner.follow with
    | .error obstacle =>
        cannot "failed to access" source obstacle
        return false
    | .ok info =>
        if info.sort = .directory && !manner.directories then
          reject (shownName source ++ ": hard link not allowed for directory".toList)
          return false
  let (goOn, kept) ← makeRoom manner created source target
  if !goOn then return false
  let path ←
    if manner.symbolic && manner.relative then do
      let goal ← Paths.canonical .nothing true source
      let start ← Paths.canonical .nothing true (beforeLast target)
      match goal, start with
      | .ok goal, .ok start => pure (Paths.relative start goal)
      | _, _ => pure source
    else pure source
  let result ←
    if manner.symbolic then Work.expectDone (.symbolicLink path target)
    else do
      let found ← if manner.follow then Work.expectText (.resolve source) else pure (.ok source)
      Work.expectDone (.link (found.toOption.getD source) target)
  match result with
  | .error obstacle =>
      report manner path target obstacle
      return false
  | .ok _ =>
      if manner.verbose then
        let start :=
          match kept with
          | some kept => marked kept ++ " ~ ".toList
          | none => []
        let arrow := if manner.symbolic then " -> " else " => "
        Task.line (start ++ marked target ++ arrow.toList ++ marked path)
      return true

/-- Gives files other names, or makes links to paths. -/
def run (words : List Chars) : Task Unit := do
  let flags := keepingFlags ++
    [flag 'd' ["directory"], flag 'F' [], flag 'f' ["force"], flag 'i' ["interactive"],
      flag 'n' ["no-dereference"], flag 'r' ["relative"], flag 's' ["symbolic"],
      given 't' ["target-directory"], flag 'v' ["verbose"], flag 'L' ["logical"],
      flag 'P' ["physical"], flag 'T' ["no-target-directory"]]
  let arguments ← readArguments { flags } words
  let (keeping, ending) ← keepingOf arguments
  let symbolic := arguments.has 's'
  needOperands arguments.operands "missing file operand"
  if arguments.has 'r' && !symbolic then
    Task.fail 1 "cannot do --relative without --symbolic".toList
  let plain := arguments.has 'T'
  let directory :=
    match arguments.value? 't', arguments.operands with
    | none, [_] => if plain then none else some ['.']
    | directory, _ => directory
  let targets ← targetsOf arguments.operands directory plain (!(arguments.has 'n'))
  let manner : Manner :=
    { symbolic
      relative := arguments.has 'r'
      follow := arguments.last? "LP" = some 'L'
      directories := arguments.has 'd' || arguments.has 'F'
      forced := arguments.last? "fi" = some 'f'
      asks := arguments.last? "fi" = some 'i'
      keeping
      ending
      verbose := arguments.has 'v' }
  let mut created : List Paths.Spot := []
  for (source, target) in targets.pairs do
    if ← make manner created source target then
      if targets.directory.isSome then created := (← Paths.spot target) :: created

end Linking
end Utility
end Machine
end AstLink
