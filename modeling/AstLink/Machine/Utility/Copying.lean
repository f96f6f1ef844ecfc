import AstLink.Machine.Utility.Paths

namespace AstLink
namespace Machine
namespace Utility
namespace Copying

/-!
`cp` and `mv`, which copy files and move them.  Both first make sure that nothing is lost at the
target that should be kept.
-/

/-- What is done with a file. -/
inductive Deed where
  | copies
  | moves
  /-- Gives the file another name. -/
  | links
  /-- Makes a link to the path of the file. -/
  | points
  deriving DecidableEq, Repr

inductive Following where
  | none
  /-- Only those that were named by whoever called. -/
  | operands
  | all
  deriving DecidableEq, Repr

inductive Replacing where
  | always
  | older
  | never
  deriving DecidableEq, Repr

/-- How files are copied or moved. -/
structure Manner where
  deed : Deed
  deep : Bool
  following : Following
  replacing : Replacing
  asks : Bool
  /-- Whether it is a failure that a file was not replaced. -/
  strict : Bool
  keeping : Option Keeping
  ending : Chars
  /-- Whether a target that stands in the way is removed and made anew. -/
  forced : Bool
  /-- Whether targets are removed before anything else. -/
  removes : Bool
  /-- Whether modes and times are kept. -/
  exact : Bool
  verbose : Bool

/-- A job: a source with its target, and what was named by whoever called. -/
structure Job where
  source : Chars
  target : Chars
  /-- The source and the target to which the job belongs. -/
  whole : Chars × Chars
  /-- Whether the source was named itself. -/
  first : Bool

/-- What was done so far: the sources that were named, and the targets that were made. -/
structure Record where
  sources : List (Paths.Spot × Nat) := []
  targets : List Paths.Spot := []

/-- What is at a target before anything is done. -/
structure Way where
  there : Option Info
  /-- The path under which something was kept that was there. -/
  kept : Option Chars := none

/-- Whether a job is about one file.  Links are told apart by their places. -/
def isItself (manner : Manner) (job : Job) (info there : Info) : Task Bool := do
  let (here, goal) := (← Paths.spot job.source, ← Paths.spot job.target)
  if info.sort = .link then
    if there.sort = .link then return here = goal
    else
      match ← Paths.canonical .everything true job.source with
      | .ok path => return (← Paths.spot path) = goal
      | .error _ => return false
  else
    let same := info.identity = there.identity && info.identity != 0
    return same && (manner.keeping.isNone || here = goal)

def tell (manner : Manner) (job : Job) (way : Way) : Task Unit := do
  if manner.verbose then
    let start := if manner.deed = .moves then "renamed " else ""
    let ending :=
      match way.kept with
      | some kept => " (backup: ".toList ++ marked kept ++ [')']
      | none => []
    Task.line (start.toList ++ marked job.source ++ " -> ".toList ++ marked job.target ++ ending)

/-- Whether what is at a target may be replaced: as options say, and as the answer to a question. -/
def mayReplace (manner : Manner) (job : Job) (info there : Info) : Task Bool := do
  let moves := manner.deed = .moves
  let heeds := moves || info.sort != .directory
  if manner.replacing = .older && info.sort != .directory && info.changed ≤ there.changed then
    return false
  else if heeds && manner.replacing = .never then
    if manner.strict then reject ("not replacing ".toList ++ marked job.target)
    return false
  else if heeds && manner.asks then
    let answer ← confirm ("overwrite ".toList ++ marked job.target)
    if !answer then Task.setStatus 1
    return answer
  else return true

/-- Why what is at a target is in the way of something of another kind. -/
def clash? (manner : Manner) (record : Record) (job : Job) (info there : Info) :
    Task (Option Chars) := do
  let fromDirectory := info.sort = .directory
  let toDirectory := there.sort = .directory
  let keeps := manner.deed = .moves && manner.keeping.isSome
  if fromDirectory && !toDirectory && !keeps then
    return some
      ("cannot overwrite non-directory ".toList ++ marked job.target ++ " with directory ".toList ++
        marked job.source)
  else if !toDirectory && job.first && manner.keeping != some .numbered &&
      record.targets.contains (← Paths.spot job.target) then
    return some
      ("will not overwrite just-created ".toList ++ marked job.target ++ " with ".toList ++
        marked job.source)
  else if !fromDirectory && toDirectory && !keeps then
    return some
      ("cannot overwrite directory ".toList ++ marked job.target ++ " with non-directory".toList)
  else return none

/-- Makes room at a target where something is.  Nothing comes back if the target has to stay as it
is. -/
def makeRoom (manner : Manner) (record : Record) (job : Job) (info there : Info) :
    Task (Option Way) := do
  let toDirectory := there.sort = .directory
  if !(← mayReplace manner job info there) then return none
  if let some complaint ← clash? manner record job info there then
    reject complaint
    return none
  match manner.keeping with
  | some keeping =>
      if isDots (lastName job.target) || (toDirectory && manner.deed != .moves) then
        return some ⟨some there, none⟩
      let kept ← keptPath keeping manner.ending job.target
      match ← Work.expectDone (.rename job.target kept) with
      | .ok _ => return some ⟨none, some kept⟩
      | .error obstacle =>
          cannot "cannot backup" job.target obstacle
          return none
  | none =>
      let isOdd := manner.deed != .moves && info.sort = .link
      if !toDirectory && (manner.removes || isOdd) then
        let _ ← Work.request (.unlink job.target)
        if manner.verbose then Task.line ("removed ".toList ++ marked job.target)
        return some ⟨none, none⟩
      else return some ⟨some there, none⟩

/-- Finds out what is at a target, and makes room there. -/
def clear (manner : Manner) (record : Record) (job : Job) (info : Info) : Task (Option Way) := do
  let direct := info.sort != .file || manner.deed != .copies || manner.keeping.isSome ||
    manner.removes
  match ← Work.inspect job.target (!direct) with
  | .error .noEntry => return some ⟨none, none⟩
  | .error obstacle =>
      cannot "cannot stat" job.target obstacle
      return none
  | .ok there =>
      let same ← isItself manner job info there
      let stays := manner.deed = .links && same
      if same && !stays && !(there.sort = .directory && manner.deed = .copies && !job.first) then
        areSame job.source job.target
        return none
      else if stays then return none
      else makeRoom manner record job info there

/-- Makes something at a target.  If something is there and has to give way, it is tried once more.
-/
def makeAt (manner : Manner) (target : Chars) (wanted : Request) : Task (Except Obstacle Unit) := do
  match ← Work.expectDone wanted with
  | .error .isThere =>
      if !manner.forced then return .error .isThere
      let _ ← Work.request (.unlink target)
      Work.expectDone wanted
  | result => return result

def openTarget (manner : Manner) (target : Chars) (there : Bool) (mode : Nat) :
    Task (Except Obstacle Nat) := do
  let fresh : Opening := { writes := true, creates := true, exclusive := true, mode }
  if there then
    match ← Work.openFile target { writes := true, truncates := true } with
    | .ok descriptor => return .ok descriptor
    | .error obstacle =>
        if !manner.forced then return .error obstacle
        let _ ← Work.request (.unlink target)
        Work.openFile target fresh
  else Work.openFile target fresh

def copyContent (manner : Manner) (job : Job) (info : Info) (way : Way) : Task Bool := do
  match ← readPath job.source with
  | .error obstacle =>
      reject
        ("cannot open ".toList ++ marked job.source ++ " for reading: ".toList ++
          obstacle.text.toList)
      return false
  | .ok text =>
      match ← openTarget manner job.target way.there.isSome info.mode with
      | .ok descriptor =>
          let _ ← Work.write descriptor text
          Work.close descriptor
          if manner.exact then
            let _ ← Work.request (.changeMode job.target info.mode)
            let _ ← Work.request (.changeTime job.target (some info.changed))
          return true
      | .error .isThere =>
          reject ("not writing through dangling symlink ".toList ++ marked job.target)
          return false
      | .error obstacle =>
          let isSlash := obstacle = .isDirectory && job.target.getLast? = some '/'
          cannot "cannot create regular file" job.target (if isSlash then .noDirectory else obstacle)
          return false

def copyPlain (manner : Manner) (job : Job) (info : Info) (way : Way) : Task Bool := do
  let { source, target, .. } := job
  let ofBoth (what : String) (result : Except Obstacle Unit) : Task Bool := do
    match result with
    | .ok _ => return true
    | .error obstacle =>
        cannotBoth what target " to " source obstacle
        return false
  tell manner job way
  match manner.deed with
  | .points =>
      let isHere := (← Paths.spot target).1 = ((← Work.expectText .working).toOption).getD []
      if source.head? = some '/' || isHere then
        ofBoth "cannot create symbolic link" (← makeAt manner target (.symbolicLink source target))
      else
        reject
          (shownName target ++
            ": can make relative symbolic links only in current directory".toList)
        return false
  | .links =>
      ofBoth "cannot create hard link" (← makeAt manner target (.link source target))
  | _ =>
      if info.sort = .link then
        let path := (← Work.expectText (.readLink source)).toOption.getD []
        match ← Work.expectDone (.symbolicLink path target) with
        | .ok _ => return true
        | .error obstacle =>
            cannot "cannot create symbolic link" target obstacle
            return false
      else copyContent manner job info way

/-- Copies what is at a path to another.  `made` is the first directory that was made, which is not
copied itself; the result is that directory, and whether it was come upon.  `bound` is how deep
directories lie within one another at most. -/
def copy (manner : Manner) (record : Record) :
    Nat -> Option Nat -> Job -> Task (Option Nat × Bool)
  | 0, made, _ => return (made, false)
  | bound + 1, made, job => do
      let { source, target, .. } := job
      let follow := manner.following = .all || (job.first && manner.following = .operands)
      match ← Work.inspect source follow with
      | .error obstacle =>
          cannot "cannot stat" source obstacle
          return (made, false)
      | .ok info =>
          let isDirectory := info.sort = .directory
          if isDirectory && !manner.deep then
            reject ("-r not specified; omitting directory ".toList ++ marked source)
            return (made, false)
          else if isDirectory && made = some info.identity then
            reject
              ("cannot copy a directory, ".toList ++ marked job.whole.1 ++ ", into itself, ".toList ++
                marked job.whole.2)
            return (made, true)
          else
            match ← clear manner record job info with
            | none => return (made, false)
            | some way =>
                if !isDirectory then
                  let _ ← copyPlain manner job info way
                  return (made, false)
                else
                  let isNew := way.there.isNone
                  if isNew then
                    if let .error obstacle ←
                        Work.expectDone (.makeDirectory target (info.mode ||| 0o700)) then
                      cannot "cannot create directory" target obstacle
                      return (made, false)
                    tell manner job way
                  let there := (← Work.inspect target true).toOption.map Info.identity
                  let mut made := made.or (if isNew then there else none)
                  let mut met := false
                  let names := ((← Work.names source).toOption).getD []
                  let (others, own) ← names.partitionM (fun name => do
                    let here := (← Work.inspect (under source name) follow).toOption
                    return made.isNone || here.map Info.identity != made)
                  for name in others ++ own do
                    if !met then
                      (made, met) ← copy manner record bound made
                        { job with
                          source := under source name
                          target := under target name
                          first := false }
                  if isNew || manner.exact then
                    let mask := (← Work.expectNumber (.mask none)).toOption.getD 0
                    let mode :=
                      if manner.exact then info.mode
                      else info.mode &&& (0o777 - (mask &&& 0o777))
                    let _ ← Work.request (.changeMode target mode)
                  return (made, met)

def move (manner : Manner) (record : Record) (job : Job) : Task Unit := do
  let { source, target, .. } := job
  match ← Work.inspect source false with
  | .error obstacle => cannot "cannot stat" source obstacle
  | .ok info =>
      match ← clear manner record job info with
      | none => return
      | some way =>
          match ← Work.expectDone (.rename source target) with
          | .ok _ => tell manner job way
          | .error .invalid =>
              reject
                ("cannot move ".toList ++ marked source ++ " to a subdirectory of itself, ".toList ++
                  marked target)
          | .error obstacle =>
              if [Obstacle.isThere, .isDirectory, .notEmpty].contains obstacle then
                cannot "cannot overwrite" target obstacle
              else cannotBoth "cannot move" source " to " target obstacle

/-- Does all that operands ask for. -/
def doAll (manner : Manner) (targets : Targets) : Task Unit := do
  let mut record : Record := {}
  for (source, target) in targets.pairs do
    let job : Job := ⟨source, target, (source, target), true⟩
    let info? := (← Work.inspect source (manner.following != .none)).toOption
    let spot ← Paths.spot source
    let isRepeated := info?.any (fun info => record.sources.contains (spot, info.identity))
    if manner.deed != .moves && isRepeated && manner.keeping.isNone then
      let isDirectory := info?.any (fun info => info.sort = .directory)
      Task.complain
        ("warning: source ".toList ++ (if isDirectory then "directory " else "file ").toList ++
          marked source ++ " specified more than once".toList)
    else
      if let some info := info? then
        record := { record with sources := (spot, info.identity) :: record.sources }
      if manner.deed = .moves then move manner record job
      else
        let _ ← copy manner record maxDepth none job
      if targets.directory.isSome && (← Work.inspect target false).isOk then
        record := { record with targets := (← Paths.spot target) :: record.targets }

/-- The options that `cp` and `mv` have in common. -/
def commonFlags : List Flag :=
  keepingFlags ++
    [flag 'f' ["force"], flag 'i' ["interactive"], flag 'n' ["no-clobber"],
      given 't' ["target-directory"], flag 'T' ["no-target-directory"],
      { letter := '\x03', names := ["update"], giving := .wordIfJoined }, flag 'u' [],
      flag 'v' ["verbose"], flag 'Z' [],
      { letter := '\x04', names := ["context"], giving := .wordIfJoined },
      flag '\x05' ["debug"], flag '\x06' ["strip-trailing-slashes"]]

def replacing (state : Replacing × Bool × Bool) (option : Char × Option Chars) :
    Task (Replacing × Bool × Bool) := do
  let (replacing, asks, _) := state
  let older : Task (Replacing × Bool × Bool) := return (.older, asks, false)
  match option with
  | ('n', _) => return (.never, false, true)
  | ('i', _) => return (if replacing = .never then .always else replacing, true, false)
  | ('f', _) => return (if replacing = .never then .always else replacing, false, false)
  | ('u', _) | ('\x03', none) => if replacing = .never then return state else older
  | ('\x03', some word) =>
      let choice ← choose 1 "--update".toList [["all"], ["none"], ["older"]] word
      if replacing = .never then return state
      else
        match choice with
        | 0 => return (.always, false, false)
        | 1 => return (.never, false, false)
        | _ => older
  | _ => return state

def taken (arguments : Arguments) : List Chars :=
  if arguments.has '\x06' then
    arguments.operands.dropLast.map Chars.withoutSlashes ++ (arguments.operands.getLast?).toList
  else arguments.operands

def moveFiles (words : List Chars) : Task Unit := do
  let flags := commonFlags ++ [flag '\x07' ["no-copy"]]
  let arguments ← readArguments { flags } words
  let (replacing, asks, strict) ← arguments.options.foldlM replacing (.always, false, false)
  let targets ←
    targetsOf (taken arguments) (arguments.value? 't') (arguments.has 'T') true
  let (keeping, ending) ← keepingOf arguments
  if keeping.isSome && replacing = .never then
    Task.misuse 1 "options --backup and --no-clobber are mutually exclusive".toList
  doAll
    { deed := .moves
      deep := true
      following := .none
      replacing
      asks
      strict
      keeping
      ending
      forced := false
      removes := false
      exact := true
      verbose := arguments.has 'v' }
    targets

/-- The options of `cp`. -/
def copyFlags : List Flag :=
  commonFlags ++
    [flag 'a' ["archive"], flag 'd' [], flag 'H' [], flag 'l' ["link"], flag 'L' ["dereference"],
      flag 'p' [], { letter := '\x10', names := ["preserve"], giving := .wordIfJoined },
      flag 'P' ["no-dereference"], flag 'R' ["recursive"], flag 'r' [], flag 's' ["symbolic-link"],
      flag 'x' ["one-file-system"], flag '\x11' ["parents"], flag '\x12' ["remove-destination"],
      flag '\x13' ["attributes-only"], given '\x14' ["no-preserve"],
      { letter := '\x15', names := ["reflink"], giving := .wordIfJoined },
      given '\x16' ["sparse"], flag '\x17' ["copy-contents"]]

/-- Looks at an option of `cp` as soon as it is read. -/
def checkOption (letter : Char) (value : Option Chars) : Task Unit := do
  match letter, value with
  | 'n', _ =>
      Task.complain
        ("warning: behavior of -n is non-portable and may change in future; " ++
          "use --update=none instead").toList
  | '\x15', some word =>
      let _ ← choose 1 "--reflink".toList [["auto"], ["always"], ["never"]] word
  | '\x16', some word =>
      let _ ← choose 1 "--sparse".toList [["never"], ["auto"], ["always"]] word
  | _, _ => return

def makeWay (directory : Chars) (names : List Chars) : Task Unit := do
  for count in List.range (names.length - 1) do
    let _ ← Work.request
      (.makeDirectory (under directory (Chars.join ['/'] (names.take (count + 1)))) 0o777)

/-- Which links are followed, as options say. -/
def followingOf (arguments : Arguments) (deep : Bool) : Following :=
  match arguments.last? "LHPda" with
  | some 'L' => .all
  | some 'H' => .operands
  | some _ => .none
  | none => if deep then .none else .all

def copyFiles (words : List Chars) : Task Unit := do
  let arguments ← readArguments { flags := copyFlags, check := fun _ => checkOption } words
  let has := arguments.has
  let (replacing, asks, _) ← arguments.options.foldlM replacing (.always, false, false)
  let (keeping, ending) ← keepingOf arguments
  let deep := has 'r' || has 'R' || has 'a'
  if has 'l' && has 's' then
    Task.misuse 1 "cannot make both hard and symbolic links".toList
  let targets ←
    targetsOf (taken arguments) (arguments.value? 't') (has 'T') true
  let parents := has '\x11'
  if parents && targets.directory.isNone then
    Task.misuse 1 "with --parents, the destination must be a directory".toList
  let manner : Manner :=
    { deed := if has 'l' then .links else if has 's' then .points else .copies
      deep
      following := followingOf arguments deep
      replacing
      asks
      strict := false
      keeping
      ending
      forced := has 'f'
      removes := has '\x12'
      exact := has 'p' || has 'a' || has '\x10'
      verbose := has 'v' || has '\x05' }
  match parents, targets.directory with
  | true, some directory =>
      for source in targets.sources do
        let names := Paths.namesOf source
        makeWay directory names
        let target := under directory (Chars.join ['/'] names)
        doAll manner ⟨[source], none, target⟩
  | _, _ => doAll manner targets

end Copying
end Utility
end Machine
end AstLink
