import AstLink.Machine.Utility.Files

namespace AstLink
namespace Machine
namespace Utility
namespace Removing

/-!
`rm` and `unlink`, which remove files.
-/

inductive Asking where
  | never
  | once
  | always
  deriving DecidableEq, Repr

/-- How files are removed. -/
structure Manner where
  asking : Asking
  lenient : Bool
  deep : Bool
  empty : Bool
  verbose : Bool
  sparing : Bool

/-- What a file is called in a question. -/
def kindOf (info : Info) : String :=
  match info.sort with
  | .file => if info.size = 0 then "regular empty file" else "regular file"
  | .directory => "directory"
  | .link => "symbolic link"
  | .device => "character special file"
  | .pipe => "fifo"

/-- Asks before something is done with a file, if questions are wanted. -/
def allowed (manner : Manner) (what : String) (path : Chars) : Task Bool := do
  if manner.asking = .always then confirm ((what ++ " ").toList ++ marked path) else return true

/-- Tells what became of a file. -/
def report (manner : Manner) (what : String) (path : Chars) (result : Except Obstacle Unit) :
    Task Unit := do
  match result with
  | .ok _ => if manner.verbose then Task.line ((what ++ " ").toList ++ marked path)
  | .error obstacle => cannot "cannot remove" path obstacle

/-- Removes what is at a path.  `bound` is how deep directories lie within one another at most. -/
def remove (manner : Manner) : Nat -> Chars -> Task Unit
  | 0, _ => return
  | bound + 1, path => do
      match ← Work.inspect path false with
      | .error obstacle =>
          if !(manner.lenient && isMissing obstacle) then cannot "cannot remove" path obstacle
      | .ok info =>
          if info.sort != .directory then
            if ← allowed manner ("remove " ++ kindOf info) path then
              report manner "removed" path (← Work.expectDone (.unlink path))
          else
            match (← Work.names path).toOption.getD [] with
            | [] =>
                if !manner.deep && !manner.empty then cannot "cannot remove" path .isDirectory
                else if ← allowed manner "remove directory" path then
                  report manner "removed directory" path
                    (← Work.expectDone (.removeDirectory path))
            | names =>
                if !manner.deep then
                  cannot "cannot remove" path (if manner.empty then .notEmpty else .isDirectory)
                else if ← allowed manner "descend into directory" path then
                  for name in names do
                    remove manner bound (under path name)
                  if ← allowed manner "remove directory" path then
                    report manner "removed directory" path
                      (← Work.expectDone (.removeDirectory path))

def oneSlash (path : Chars) : Chars :=
  let bare := Chars.withoutSlashes path
  if bare.length < path.length then bare ++ ['/'] else bare

def removeOperand (manner : Manner) (path : Chars) : Task Unit := do
  let isRoot := manner.deep && (← Work.expectText (.resolve path)).toOption = some ['/']
  if manner.deep && isDots (lastName path) && (← isDirectory path false) then
    reject
      ("refusing to remove \x27.\x27 or \x27..\x27 directory: skipping ".toList ++ marked path)
  else if manner.sparing && isRoot then
    let same := if path = ['/'] then [] else " (same as \x27/\x27)".toList
    Task.complain ("it is dangerous to operate recursively on ".toList ++ marked path ++ same)
    reject "use --no-preserve-root to override this failsafe".toList
  else remove manner maxDepth (oneSlash path)

/-- When questions are asked, and whether missing files are passed over, after an option. -/
def asked (state : Asking × Bool) (option : Char × Option Chars) : Task (Asking × Bool) := do
  match option with
  | ('f', _) => return (.never, true)
  | ('i', _) => return (.always, false)
  | ('I', _) => return (.once, false)
  | ('\x01', word) =>
      let choices := [["never", "no", "none"], ["once"], ["always", "yes"]]
      match word with
      | none => return (.always, false)
      | some word =>
          match ← choose 1 "--interactive".toList choices word with
          | 0 => return (.never, state.2)
          | 1 => return (.once, false)
          | _ => return (.always, false)
  | _ => return state

/-- Removes files. -/
def run (words : List Chars) : Task Unit := do
  let flags :=
    [flag 'f' ["force"], flag 'i' [], flag 'I' [], flag 'r' ["recursive"], flag 'R' [],
      flag 'd' ["dir"], flag 'v' ["verbose"],
      { letter := '\x01', names := ["interactive"], giving := .wordIfJoined },
      flag '\x02' ["one-file-system"], flag '\x03' ["no-preserve-root"],
      { letter := '\x04', names := ["preserve-root"], giving := .wordIfJoined }]
  let arguments ← readArguments { flags } words
  let (asking, lenient) ← arguments.options.foldlM asked (Asking.never, false)
  let paths := arguments.operands
  if !lenient then needOperands paths "missing operand"
  let deep := arguments.has 'r' || arguments.has 'R'
  let manner : Manner :=
    { asking
      lenient
      deep
      empty := arguments.has 'd'
      verbose := arguments.has 'v'
      sparing := arguments.last? "\x03\x04" != some '\x03' }
  let goOn ←
    if asking = .once && (deep || 3 < paths.length) then
      confirm
        ("remove ".toList ++ Chars.ofNat paths.length ++
          (if paths.length = 1 then " argument" else " arguments").toList ++
          (if deep then " recursively" else "").toList)
    else pure true
  if goOn then
    for path in paths do
      removeOperand manner path

/-- Removes one name of a file. -/
def unlink (words : List Chars) : Task Unit := do
  let arguments ← readArguments { flags := [] } words
  match arguments.operands with
  | [] => Task.misuse 1 "missing operand".toList
  | [path] =>
      match ← Work.expectDone (.unlink path) with
      | .ok _ => return
      | .error obstacle => cannot "cannot unlink" path obstacle
  | _ :: extra :: _ => Task.misuse 1 ("extra operand ".toList ++ marked extra)

end Removing
end Utility
end Machine
end AstLink
