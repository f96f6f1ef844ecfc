import AstLink.Machine.Shell.Redirection

namespace AstLink
namespace Machine
namespace Shell

/-!
What a command name stands for: something that the shell does itself, a function of the script, or
a program in one of the directories of the search path.
-/

/-- What is special about a command that the shell carries out itself. -/
structure Kind where
  /-- A mistake in it ends the script, and assignments before it last. -/
  special : Bool := false
  /-- Its operands may be assignments. -/
  assigns : Bool := false

/-- The commands that the shell carries out itself. -/
def kinds : List (String × Kind) :=
  let plain : Kind := {}
  let special : Kind := { special := true }
  let assigning : Kind := { special := true, assigns := true }
  [(".", special), (":", special), ("[", plain), ("alias", plain), ("bg", plain),
    ("break", special), ("cd", plain), ("chdir", plain), ("command", plain),
    ("continue", special), ("echo", plain), ("eval", special), ("exec", special),
    ("exit", special), ("export", assigning), ("false", plain), ("fg", plain),
    ("getopts", plain), ("hash", plain), ("jobs", plain), ("kill", plain),
    ("local", assigning), ("printf", plain), ("pwd", plain), ("read", plain),
    ("readonly", assigning), ("return", special), ("set", special), ("shift", special),
    ("test", plain), ("times", special), ("trap", special), ("true", plain), ("type", plain),
    ("ulimit", plain), ("umask", plain), ("unalias", plain), ("unset", special),
    ("wait", plain)]

/-- What a command name stands for. -/
inductive Found where
  | builtin (kind : Kind)
  | function (body : Statement)
  /-- A program, in the directory of the search path with this number if the name has no slash. -/
  | program (place : Option Nat)
  | nothing (obstacle : Obstacle)

namespace Search

/-- The search path when nothing is said about it. -/
def usualPath : Chars := "/usr/local/sbin:/usr/local/bin:/usr/sbin:/usr/bin:/sbin:/bin".toList

def candidates (path name : Chars) : List Chars :=
  (Chars.splitOn ':' path).map (fun directory =>
    if directory.isEmpty then name else directory ++ '/' :: name)

def canRun (info : Info) : Bool := info.sort = .file && info.mode &&& 0o111 != 0

/-- Looks for a program under some paths, the first of which has a number.  `obstacle` is what was
met on the way. -/
def program (obstacle : Obstacle) (number : Nat) : List Chars -> Action Found
  | [] => return .nothing obstacle
  | path :: paths => do
      match ← Work.inspect path true with
      | .ok info =>
          if canRun info then return .program (some number)
          else program .noAccess (number + 1) paths
      | .error .noEntry | .error .noDirectory => program obstacle (number + 1) paths
      | .error obstacle => program obstacle (number + 1) paths

def remember (name : Chars) (place : Nat) : Action Unit :=
  modify (fun session =>
    if session.found.any (fun entry => entry.1 = name) then
      { session with
        found := session.found.map (fun entry =>
          if entry.1 = name then (name, place, false) else entry) }
    else { session with found := session.found ++ [(name, place, false)] })

def forget (name : Chars) : Action Unit :=
  modify (fun session =>
    { session with found := session.found.filter (fun entry => entry.1 != name) })

/-- What a command name stands for.  Functions may be left out of account, and another search path
may be given. -/
def find (functions : Bool) (other : Option Chars) (name : Chars) : Action Found := do
  if name.contains '/' then return .program none
  let session ← get
  let function := if functions then session.functions.lookup name else none
  match function, kinds.lookup (String.ofList name) with
  | some body, _ => return .function body
  | none, some kind => return .builtin kind
  | none, none =>
      let path ← Action.searchPath
      match other, session.found.lookup name with
      | some other, _ =>
          if other = path then searchAndRemember path else program .noEntry 0 (candidates other name)
      | none, some (place, again) =>
          if again then searchAndRemember path else return .program (some place)
      | none, none => searchAndRemember path
where
  searchAndRemember (path : Chars) : Action Found := do
    let found ← program .noEntry 0 (candidates path name)
    match found with
    | .program (some place) => remember name place
    | _ => forget name
    return found

/-- Marks the programs that may be others in another directory. -/
def doubt : Action Unit :=
  modify (fun session =>
    { session with found := session.found.map (fun (name, place, _) => (name, place, true)) })

/-- The path of a program, given the number of its directory. -/
def pathOf (path name : Chars) (place : Option Nat) : Chars :=
  match place with
  | none => name
  | some number => (candidates path name).getD number name

/-- What is said of a command that is not found. -/
def complaint (name : Chars) (obstacle : Obstacle) : Chars :=
  name ++ ": ".toList ++ Redirection.reason "not found" obstacle

def aliasLine (name value : Chars) : Chars := name ++ '=' :: Action.quoted value ++ ['\n']

/-- Says what a command name stands for, at length or in short.  The result is the status. -/
def describe (long : Bool) (other : Option Chars) (name : Chars) : Action Nat := do
  let session ← get
  let tell (text : String) : Action Nat := do
    Action.say (name ++ (if long then text.toList else []) ++ ['\n'])
    return 0
  if Keyword.all.any (fun keyword => keyword.text.toList == name) then
    tell " is a shell keyword"
  else
    match session.aliases.lookup name with
    | some value =>
        if long then
          Action.say (name ++ " is an alias for ".toList ++ value ++ ['\n'])
        else Action.say ("alias ".toList ++ aliasLine name value)
        return 0
    | none =>
        let path ← Action.searchPath
        let known := other.isNone && (session.found.lookup name).isSome
        let found ←
          match known, session.found.lookup name with
          | true, some (place, _) => pure (Found.program (some place))
          | _, _ =>
              if name.contains '/' then
                match ← Work.inspect name true with
                | .ok _ => pure (Found.program none)
                | .error obstacle => pure (Found.nothing obstacle)
              else find true other name
        match found with
        | .builtin kind =>
            tell (if kind.special then " is a special shell builtin" else " is a shell builtin")
        | .function _ => tell " is a shell function"
        | .program place =>
            let path := pathOf (other.getD path) name place
            let known := if known then " a tracked alias for".toList else []
            Action.say
              (if long then name ++ " is".toList ++ known ++ ' ' :: path ++ ['\n']
               else path ++ ['\n'])
            return 0
        | .nothing _ =>
            if long then Action.say (name ++ ": not found\n".toList)
            return 127

end Search

/-! ## Starting programs -/

namespace Action

/-- Puts a program in the place of the shell, or gives the obstacle. -/
def execute (path : Chars) (words : List Chars) : Action Obstacle := do
  let environment := environment (← get)
  match ← Work.request (.execute path words environment) with
  | .failed .noProgram =>
      let shell := "/bin/sh".toList
      match ← Work.request (.execute shell (shell :: path :: words.drop 1) environment) with
      | .failed obstacle => return obstacle
      | _ => return .noEntry
  | .failed obstacle => return obstacle
  | _ => return .noEntry

/-- Tries paths one after another. -/
def executeAny (words : List Chars) (obstacle : Obstacle) : List Chars -> Action Obstacle
  | [] => return obstacle
  | path :: paths => do
      let met ← execute path words
      executeAny words (if met = .noEntry || met = .noDirectory then obstacle else met) paths

/-- Puts a program in the place of the shell.  `place` is the number of its directory in a search
path. -/
def become {α : Type} (path : Chars) (place : Nat) (words : List Chars) : Action α := do
  let name := words.headD []
  let obstacle ←
    if name.contains '/' then execute name words
    else executeAny words .noEntry ((Search.candidates path name).drop place)
  let missing := [Obstacle.noEntry, .noDirectory, .tooManyLevels, .nameTooLong]
  let status := if missing.contains obstacle then 127 else 126
  failWith .finished status (Search.complaint name obstacle)

end Action

end Shell
end Machine
end AstLink
