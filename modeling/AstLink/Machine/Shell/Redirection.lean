import AstLink.Machine.Shell.Expansion

namespace AstLink
namespace Machine
namespace Shell
namespace Redirection

/-!
Redirections: descriptors that stand for something else while a command runs.

What a descriptor stood for is kept under a high number of which started programs know nothing, and
is put back when the command is over.
-/

/-- What a descriptor is to stand for, once words have been expanded. -/
inductive Goal where
  | file (direction : Direction) (name : Chars)
  | descriptor (number : Nat)
  | closed
  | document (number : Nat)

/-- What an obstacle is called that keeps a file from being opened.  `missing` is said where there
is nothing. -/
def reason (missing : String) (obstacle : Obstacle) : Chars :=
  if obstacle = .noEntry || obstacle = .noDirectory then missing.toList
  else obstacle.text.toList

def duplicateOf (text : Chars) : Action Goal :=
  match text with
  | [char] =>
      if char.isDigit then return .descriptor (char.toNat - '0'.toNat)
      else if char = '-' then return .closed
      else Action.fail "Bad fd number".toList
  | _ => Action.fail "Bad fd number".toList

def prepare (engine : Engine) (redirection : Redirection) : Action (Nat × Goal) := do
  match redirection with
  | .file descriptor direction name =>
      return (descriptor, .file direction (← Expansion.text engine { home := true } name))
  | .duplicate descriptor (.descriptor number) => return (descriptor, .descriptor number)
  | .duplicate descriptor .closed => return (descriptor, .closed)
  | .duplicate descriptor (.word word) =>
      return (descriptor, ← duplicateOf ((← Expansion.fields engine word).headD []))
  | .document descriptor number => return (descriptor, .document number)

/-- Opens a file to be written on, if that is allowed where files may not be lost. -/
def openKept (name : Chars) : Action (Except Obstacle Nat) := do
  match ← Work.inspect name true with
  | .error _ => Work.openFile name { writes := true, creates := true, exclusive := true }
  | .ok info =>
      if info.sort = .file then return .error .isThere
      else Work.openFile name { writes := true }

def openIn (direction : Direction) (name : Chars) : Action (Except Obstacle Nat) := do
  match direction with
  | .input => Work.openFile name { reads := true }
  | .both => Work.openFile name { reads := true, writes := true, creates := true }
  | .append => Work.openFile name { writes := true, appends := true, creates := true }
  | .overwrite => Work.openFile name { writes := true, creates := true, truncates := true }
  | .output =>
      if ← Action.isOn "noclobber" then openKept name
      else Work.openFile name { writes := true, creates := true, truncates := true }

/-- How much a pipe takes from one who does not wait. -/
def pipeSize : Nat := 4096

/-- Opens a document: its text is what there is to read in a pipe. -/
def openDocument (engine : Engine) (number : Nat) : Action Nat := do
  match ← Work.request .pipe with
  | .pair source sink =>
      let text ←
        match (← get).documents.lookup number with
        | some found =>
            if found.literal then pure found.text.bare
            else Expansion.text engine { quoted := true } found.text
        | none => pure []
      if text.length ≤ pipeSize then
        let _ ← Work.write sink text
      else
        let writer : Action Unit := do
          Work.close source
          let _ ← Work.write sink text
        match ← Work.fork writer (fun _ _ => .exit 0) with
        | .ok _ => pure ()
        | .error _ => Action.fail "Cannot fork".toList
      Work.close sink
      return source
  | _ => Action.fail "Pipe call failed".toList

def openGoal (engine : Engine) (goal : Goal) : Action (Option Nat) := do
  match goal with
  | .file direction name =>
      match ← openIn direction name with
      | .ok descriptor => return some descriptor
      | .error obstacle =>
          let (what, missing) :=
            if direction = .input then ("cannot open ", "No such file")
            else ("cannot create ", "Directory nonexistent")
          Action.fail (what.toList ++ name ++ ": ".toList ++ reason missing obstacle)
  | .descriptor number => return some number
  | .closed => return none
  | .document number => return some (← openDocument engine number)

/-- Carries out a redirection.  `keeping` says that it will be taken back. -/
def carryOut (engine : Engine) (keeping : Bool) (descriptor : Nat) (goal : Goal) :
    Action Unit := do
  if let .descriptor number := goal then
    if number = descriptor then return
  let source ← openGoal engine goal
  if keeping then
    match (← get).saved with
    | entries :: others =>
        if (entries.lookup descriptor).isNone then
          let saved ← if source = some descriptor then pure Saved.closed else Action.save descriptor
          modify (fun session =>
            { session with saved := ((descriptor, saved) :: entries) :: others })
    | [] => pure ()
  match source with
  | none => Work.close descriptor
  | some source =>
      if source != descriptor then
        let result ← Work.expectDone (.duplicate source descriptor)
        if let .descriptor _ := goal then pure () else Work.close source
        match result with
        | .ok _ => return
        | .error obstacle =>
            Action.fail (Chars.ofNat source ++ ": ".toList ++ obstacle.text.toList)

/-- Carries out redirections that are not taken back. -/
def carryOutAll (engine : Engine) (goals : List (Nat × Goal)) : Action Unit := do
  for (descriptor, goal) in goals do
    carryOut engine false descriptor goal

/-- Begins to keep what descriptors stand for, if there are any redirections. -/
def begin (goals : List (Nat × Goal)) : Action Unit :=
  modify (fun session =>
    if goals.isEmpty then session else { session with saved := [] :: session.saved })

/-- Carries out redirections that will be taken back.  A mistake in one does not break anything off;
the result says whether there was none. -/
def tryAll (engine : Engine) (goals : List (Nat × Goal)) : Action Bool := do
  let attempt : Action Unit := do
    for (descriptor, goal) in goals do
      carryOut engine true descriptor goal
  match ← Work.outcome attempt with
  | .ok _ => return true
  | .error .mistake => return false
  | .error reason => throw reason

end Redirection
end Shell
end Machine
end AstLink
