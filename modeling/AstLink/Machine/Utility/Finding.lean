import AstLink.Machine.Shell.Pattern
import AstLink.Machine.Utility.Finding.Expression
import AstLink.Machine.Utility.Launching

namespace AstLink
namespace Machine
namespace Utility
namespace Finding

/-!
`find`, which goes through directories and does something with every file that an expression holds
of.
-/

/-- How directories are gone through. -/
structure Manner where
  expression : Expression
  /-- The commands that are run with many paths. -/
  gathered : List (List Chars)
  inwardFirst : Bool
  least : Nat
  most : Option Nat
  followsOperands : Bool
  followsAll : Bool

/-- A file that was come upon. -/
structure Visit where
  path : Chars
  operand : Chars
  depth : Nat
  info : Info

/-- What is remembered from file to file. -/
structure Progress where
  /-- Paths for commands, each with the number of the command, latest first. -/
  waiting : List (Nat × Chars) := []
  /-- Whether what is in the last directory is passed over. -/
  pruned : Bool := false

def sortLetter : FileSort -> Char
  | .file => 'f'
  | .directory => 'd'
  | .link => 'l'
  | .device => 'c'
  | .pipe => 'p'

def complainOfPath (path : Chars) (obstacle : Obstacle) : Task Unit :=
  reject (marked path ++ ": ".toList ++ obstacle.text.toList)

/-- What stands behind the last slash of a path, other than at its end. -/
def Visit.name (visit : Visit) : Chars :=
  let bare := Chars.withoutSlashes visit.path
  if bare = ['/'] then bare else Chars.lastName bare

def Visit.field (visit : Visit) (letter : Char) : Task Chars := do
  let info := visit.info
  match letter with
  | 'p' => return visit.path
  | 'f' => return visit.name ++ visit.path.drop (Chars.withoutSlashes visit.path).length
  | 'h' =>
      if visit.path.contains '/' then
        return visit.path.take (visit.path.length - (Chars.lastName visit.path).length - 1)
      else return ['.']
  | 'P' =>
      let rest := visit.path.drop visit.operand.length
      return if rest.head? = some '/' then rest.drop 1 else rest
  | 'H' => return visit.operand
  | 's' => return Chars.ofNat info.size
  | 'm' => return Nat.toDigits 8 info.mode
  | 'M' =>
      let letter := sortLetter info.sort
      return (if letter = 'f' then '-' else letter) :: Permission.row info.mode
  | 'd' => return Chars.ofNat visit.depth
  | 'y' => return [sortLetter info.sort]
  | 'l' => return ((← Work.expectText (.readLink visit.path)).toOption).getD []
  | 'n' => return Chars.ofNat info.links
  | 'i' => return Chars.ofNat info.identity
  | 'U' | 'G' => return ['0']
  | _ => return "root".toList

def Visit.write (visit : Visit) : List Piece -> Task Unit
  | [] => return
  | .stop :: _ => return
  | .text text :: pieces => do
      Task.say text
      visit.write pieces
  | .field conversion :: pieces => do
      Task.say (conversion.text (← visit.field conversion.kind))
      visit.write pieces

/-- Whether a text is of a pattern; letters may be alike but for their size. -/
def isOf (pattern : Chars) (caseless : Bool) (text : Chars) : Bool :=
  let alike (text : Chars) : Chars := if caseless then Chars.lower text else text
  let glyphs := (alike pattern).map (fun char => (⟨char, true⟩ : Shell.Glyph))
  Shell.Pattern.matchesText (Shell.Pattern.heed glyphs) (alike text)

/-- Runs a command, and tells whether it succeeds. -/
def succeeds (words : List Chars) : Task Bool := do
  Task.flush
  let command : Task Unit := do
    let obstacle ← execute words
    Task.complain (marked (words.headD []) ++ ": ".toList ++ obstacle.text.toList)
    Task.stop 1
  let status (result : Except Nat Unit) : Ending :=
    match result with
    | .error status => .exit status
    | .ok _ => .exit 0
  match ← Work.fork command (fun result _ => status result) with
  | .error obstacle => Task.fail 1 ("cannot fork: ".toList ++ obstacle.text.toList)
  | .ok process => return (← waitForEnd process Work.bound) = .exit 0

/-- A word with a path wherever there is a hole. -/
def filled (path : Chars) : Nat -> Chars -> Chars
  | _, [] => []
  | skipped + 1, _ :: rest => filled path skipped rest
  | 0, char :: rest =>
      if hole.isPrefixOf (char :: rest) then path ++ filled path (hole.length - 1) rest
      else char :: filled path 0 rest

/-- Removes a file, unless it is the working directory. -/
def remove (visit : Visit) : Task Bool := do
  if visit.path = ['.'] then return true
  let wanted : Request :=
    if visit.info.sort = .directory then .removeDirectory visit.path else .unlink visit.path
  match ← Work.expectDone wanted with
  | .ok _ => return true
  | .error obstacle =>
      cannot "cannot delete" visit.path obstacle
      return false

/-- Runs the commands for which paths are waiting. -/
def runGathered (manner : Manner) (progress : Progress) : Task Unit := do
  for (command, number) in manner.gathered.zipIdx do
    let mine := progress.waiting.filter (fun entry => entry.1 = number)
    let paths := (mine.map Prod.snd).reverse
    if !paths.isEmpty then
      if !(← succeeds (command ++ paths)) then Task.setStatus 1

/-- Tests a file, or does something with it. -/
def check (manner : Manner) (visit : Visit) (progress : Progress) (primary : Primary) :
    Task (Bool × Progress) := do
  let answer (value : Bool) : Task (Bool × Progress) := return (value, progress)
  let info := visit.info
  match primary with
  | .constant value => answer value
  | .name pattern caseless => answer (isOf pattern caseless visit.name)
  | .path pattern caseless => answer (isOf pattern caseless visit.path)
  | .sort letters => answer (letters.contains (sortLetter info.sort))
  | .size limit unit => answer (limit.holds ((info.size + unit - 1) / unit))
  | .empty =>
      match info.sort with
      | .file => answer (info.size = 0)
      | .directory => answer (((← Work.names visit.path).toOption.map List.isEmpty).getD false)
      | _ => answer false
  | .newer time => answer (time < info.changed)
  | .mode comparison bits =>
      match comparison with
      | .exactly => answer (info.mode = bits)
      | .more => answer (info.mode &&& bits = bits)
      | .less => answer (bits = 0 || info.mode &&& bits != 0)
  | .links limit => answer (limit.holds info.links)
  | .executable =>
      match ← Work.inspect visit.path true with
      | .ok info => answer (info.sort = .directory || info.mode &&& Tree.runBits != 0)
      | .error _ => answer false
  | .prune => return (true, { progress with pruned := !manner.inwardFirst })
  | .quit =>
      runGathered manner progress
      Task.stop (← get).status
  | .print ending =>
      Task.say (visit.path ++ [ending])
      answer true
  | .format pieces =>
      visit.write pieces
      answer true
  | .execute words => answer (← succeeds (words.map (filled visit.path 0)))
  | .gather number =>
      return (true, { progress with waiting := (number, visit.path) :: progress.waiting })
  | .delete => answer (← remove visit)

def holds (manner : Manner) (visit : Visit) : Expression -> Progress -> Task (Bool × Progress)
  | .primary primary, progress => check manner visit progress primary
  | .not expression, progress => do
      let (value, progress) ← holds manner visit expression progress
      return (!value, progress)
  | .both first second, progress => do
      let (value, progress) ← holds manner visit first progress
      if value then holds manner visit second progress else return (false, progress)
  | .either first second, progress => do
      let (value, progress) ← holds manner visit first progress
      if value then return (true, progress) else holds manner visit second progress
  | .sequence first second, progress => do
      let (_, progress) ← holds manner visit first progress
      holds manner visit second progress

/-- What can be found out about a file.  A link that leads nowhere is taken as it is. -/
def inspect (follow : Bool) (path : Chars) : Task (Except Obstacle Info) := do
  match ← Work.inspect path follow with
  | .error .noEntry => Work.inspect path false
  | result => return result

/-- Goes through a file and all that is in it.  `bound` is how deep directories lie within one
another at most. -/
def goThrough (manner : Manner) (operand : Chars) :
    Nat -> Nat -> Chars -> Progress -> Task Progress
  | 0, _, _, progress => return progress
  | bound + 1, depth, path, progress => do
      match ← inspect (manner.followsAll || (manner.followsOperands && depth = 0)) path with
      | .error obstacle =>
          complainOfPath path obstacle
          return progress
      | .ok info =>
          let visit : Visit := { path, operand, depth, info }
          let look (progress : Progress) : Task Progress := do
            let progress := { progress with pruned := false }
            if depth < manner.least then return progress
            else return (← holds manner visit manner.expression progress).2
          let progress := { progress with pruned := false }
          let progress ← if manner.inwardFirst then pure progress else look progress
          let enters := info.sort = .directory && !progress.pruned && manner.most.all (depth < ·)
          let names ←
            if !enters then pure []
            else
              match ← Work.names path with
              | .ok names => pure names
              | .error obstacle =>
                  complainOfPath path obstacle
                  pure []
          let mut progress := progress
          for name in names do
            progress ← goThrough manner operand bound (depth + 1) (under path name) progress
          if manner.inwardFirst then look progress else return progress

/-- Reads the options before the paths: which links are followed, and what is left. -/
def readLinkOptions (followed : Bool × Bool) : List Chars -> (Bool × Bool) × List Chars
  | ['-', 'H'] :: rest => readLinkOptions (true, false) rest
  | ['-', 'L'] :: rest => readLinkOptions (true, true) rest
  | ['-', 'P'] :: rest => readLinkOptions (false, false) rest
  | ['-', '-'] :: rest => (followed, rest)
  | ('-' :: 'O' :: digit :: digits) :: rest =>
      if (digit :: digits).all Char.isDigit then readLinkOptions followed rest
      else (followed, ('-' :: 'O' :: digit :: digits) :: rest)
  | words => (followed, words)

/-- Finds files. -/
def run (words : List Chars) : Task Unit := do
  let ((followsOperands, followsAll), words) := readLinkOptions (false, false) words
  let operands := words.takeWhile (fun word => !isExpression true word)
  let reading ← readWords none (words.length + 1) {} (words.drop operands.length)
  let expression ←
    match parse reading.tokens.reverse with
    | .ok expression => pure expression
    | .error failure => Task.fail 1 failure.message
  let expression :=
    if reading.printing then .both expression (.primary (.print '\n')) else expression
  let manner : Manner :=
    { expression
      gathered := reading.gathered.reverse
      inwardFirst := reading.inwardFirst
      least := reading.least
      most := reading.most
      followsOperands
      followsAll }
  let mut progress : Progress := {}
  for operand in (if operands.isEmpty then [['.']] else operands) do
    progress ← goThrough manner operand maxDepth 0 operand progress
  runGathered manner progress

end Finding
end Utility
end Machine
end AstLink
