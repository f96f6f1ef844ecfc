import AstLink.Machine.Utility.Console

namespace AstLink
namespace Machine
namespace Utility

/-!
Files that are read, and the lines in them.  Lines are taken one by one while the file is read in
portions, so that no more is read than there is use for.
-/

/-- A file to be read: its descriptor, and what it is called. -/
structure Source where
  descriptor : Nat
  name : Chars
  isInput : Bool

/-- Opens a file, or takes the standard input for `-`. -/
def openSource (path : Chars) : Task (Except Obstacle Source) := do
  if path = ['-'] then return .ok ⟨0, "standard input".toList, true⟩
  else
    match ← Work.openFile path { reads := true } with
    | .ok descriptor => return .ok ⟨descriptor, path, false⟩
    | .error obstacle => return .error obstacle

def closeSource (source : Source) : Task Unit := do
  if !source.isInput then Work.close source.descriptor

/-- A file whose lines are taken one by one. -/
structure Feed where
  source : Source
  /-- What ends a line. -/
  separator : Char := '\n'
  /-- How much is read at once. -/
  portion : Nat := 4096
  /-- What was read and not yet taken. -/
  waiting : Chars := []
  /-- Whether there is nothing more to read. -/
  isOver : Bool := false

namespace Feed

/-- Reads until a whole line is waiting, or nothing more comes. -/
def fill : Nat -> Feed -> Task (Except Obstacle Feed)
  | 0, feed => return .ok feed
  | bound + 1, feed => do
      if feed.isOver || feed.waiting.contains feed.separator then return .ok feed
      match ← Work.read feed.source.descriptor feed.portion with
      | .error obstacle => return .error obstacle
      | .ok [] => return .ok { feed with isOver := true }
      | .ok text => fill bound { feed with waiting := feed.waiting ++ text }

/-- The next line without what ends it, and whether anything did. -/
def line? (feed : Feed) : Task (Except Obstacle (Option (Chars × Bool) × Feed)) := do
  match ← fill Work.bound feed with
  | .error obstacle => return .error obstacle
  | .ok feed =>
      if feed.waiting.isEmpty then return .ok (none, feed)
      else
        let line := feed.waiting.takeWhile (fun char => char != feed.separator)
        let rest := feed.waiting.drop line.length
        return .ok (some (line, !rest.isEmpty), { feed with waiting := rest.drop 1 })

/-- Whether there is another line. -/
def hasMore (feed : Feed) : Task (Bool × Feed) := do
  match ← fill Work.bound feed with
  | .error _ => return (false, feed)
  | .ok feed => return (!feed.waiting.isEmpty, feed)

/-- Leaves what was read and not taken to whoever reads next, if the file allows it. -/
def giveBack (feed : Feed) : Task Unit := do
  if !feed.waiting.isEmpty then
    let back := -(Int.ofNat feed.waiting.length)
    let _ ← Work.request (.seek feed.source.descriptor back .here)

/-- Hands on the lines of a file, one after another, and what became of a value with each of them; a
line comes with whether anything ended it. -/
def fold {α : Type} (step : α -> Chars × Bool -> Task α) :
    Nat -> Feed -> α -> Task (α × Option Obstacle)
  | 0, _, value => return (value, none)
  | bound + 1, feed, value => do
      match ← feed.line? with
      | .error obstacle => return (value, some obstacle)
      | .ok (none, _) => return (value, none)
      | .ok (some line, feed) => fold step bound feed (← step value line)

end Feed

/-- Hands on the lines at a path, one after another, and what became of a value with each of them.
If they cannot be read, the program complains and will end with a status. -/
def foldLines {α : Type} (status : Nat) (separator : Char) (step : α -> Chars × Bool -> Task α)
    (path : Chars) (value : α) : Task α := do
  let complain (obstacle : Obstacle) : Task Unit := do
    complainOf path obstacle
    Task.setStatus status
  match ← openSource path with
  | .error obstacle =>
      complain obstacle
      return value
  | .ok source =>
      let (value, obstacle) ← Feed.fold step Work.bound { source, separator } value
      obstacle.forM complain
      closeSource source
      return value

end Utility
end Machine
end AstLink
