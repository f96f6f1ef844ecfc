import AstLink.Machine.Shell.Builtin.Output
import AstLink.Machine.Shell.Builtin.Process
import AstLink.Machine.Shell.Builtin.Setting

namespace AstLink
namespace Machine
namespace Shell
namespace Builtin

/-!
Builtins about commands, and how a builtin is run.
-/

def leaveLoops (skip : Skip) (words : List Chars) : Action Nat := do
  let count ←
    match words with
    | word :: _ => do
        let count ← Action.number word
        if count = 0 then Action.notNumber word else pure count
    | [] => pure 1
  let count := min count (← get).loops
  if 0 < count then modify (fun session => { session with skip, skipCount := count })
  return 0

def return_ (words : List Chars) : Action Nat := do
  match words with
  | word :: _ =>
      let status ← Action.number word
      modify (fun session => { session with skip := .return })
      return status
  | [] =>
      modify (fun session => { session with skip := .returnAsIs })
      return (← get).status

/-- Ends the shell. -/
def exit (words : List Chars) : Action Nat := do
  if let word :: _ := words then
    let status ← Action.number word
    modify (fun session => { session with keptStatus := some status })
  throw .exit

def firstFile? : List Chars -> Action (Option Chars)
  | [] => return none
  | path :: paths => do
      match ← Work.inspect path true with
      | .ok info => if info.sort = .file then return some path else firstFile? paths
      | .error _ => firstFile? paths

/-- Carries out a file of commands. -/
def source (engine : Engine) : Action Nat := do
  Action.noOptions
  match (← get).operands with
  | [] => return 0
  | name :: _ =>
      let path ←
        if name.contains '/' then pure name
        else
          match ← firstFile? (Search.candidates (← Action.searchPath) name) with
          | some path => pure path
          | none => Action.fail (name ++ ": not found".toList)
      match ← Work.openFile path { reads := true } with
      | .error obstacle =>
          let reason := Redirection.reason "No such file" obstacle
          Action.fail ("cannot open ".toList ++ path ++ ": ".toList ++ reason)
      | .ok descriptor =>
          let text ← Work.readAll descriptor
          Work.close descriptor
          modify (fun session => { session with command := some path })
          engine.runFile (text.toOption.getD [])

/-- Puts a program in the place of the shell. -/
def exec : Action Nat := do
  Action.noOptions
  match (← get).operands with
  | [] => return 0
  | words => Action.become (← Action.searchPath) 0 words

/-- Says what names stand for. -/
def describeAll (status : Nat) : List Chars -> Action Nat
  | [] => return status
  | name :: names => do
      let result ← Search.describe true none name
      describeAll (status ||| result) names

/-- Says what a name stands for. -/
def command : Action Nat := do
  let rec letters (long short : Bool) (path : Option Chars) :
      Nat -> Action (Bool × Bool × Option Chars)
    | 0 => return (long, short, path)
    | bound + 1 => do
        match ← Action.nextLetter? "pvV" with
        | some 'V' => letters true short path bound
        | some 'v' => letters long true path bound
        | some _ => letters long short (some Search.usualPath) bound
        | none => return (long, short, path)
  let (long, short, path) ← letters false false none Work.bound
  match (← get).operands with
  | name :: _ => if long || short then Search.describe long path name else return 0
  | [] => return 0

/-- Shows where programs were found, or looks for them. -/
def hash : Action Nat := do
  match ← Action.nextLetter? "r" with
  | some _ =>
      modify (fun session => { session with found := [] })
      return 0
  | none =>
      let path ← Action.searchPath
      match (← get).operands with
      | [] =>
          let rowOf (name : Chars) : Nat :=
            ((name.headD '\x00').toNat * 16 +
              name.foldl (fun sum char => sum + char.toNat) 0) % 31
          let found := (← get).found
          for number in List.range 31 do
            for (name, place, again) in found.filter (fun entry => rowOf entry.1 = number) do
              let mark := if again then ['*'] else []
              Action.say (Search.pathOf path name (some place) ++ mark ++ ['\n'])
          return 0
      | names =>
          let mut status := 0
          for name in names do
            Search.forget name
            match ← Search.find true none name with
            | .nothing obstacle =>
                Action.warn (Search.complaint name obstacle)
                status := 1
            | _ => pure ()
          return status

def carryOut (engine : Engine) (tested : Bool) (name : Chars) (words : List Chars) :
    Action Nat :=
  match String.ofList name with
  | "." => source engine
  | ":" | "true" => return 0
  | "false" => return 1
  | "[" | "test" => test name words
  | "alias" => setAliases words
  | "bg" | "fg" => moveJob
  | "break" => leaveLoops .leaveLoop words
  | "cd" | "chdir" => changeDirectory
  | "command" => command
  | "continue" => leaveLoops .nextTurn words
  | "echo" => echo words
  | "eval" =>
      if words.isEmpty then return 0 else engine.runText (Chars.join [' '] words) tested
  | "exec" => exec
  | "exit" => exit words
  | "export" => mark name { exported := true }
  | "getopts" => getOptions
  | "hash" => hash
  | "jobs" => jobs
  | "kill" => kill words
  | "local" => keepToFunction words
  | "printf" => printf words
  | "pwd" => showDirectory
  | "read" => read
  | "readonly" => mark name { constant := true }
  | "return" => return_ words
  | "set" => set words
  | "shift" => shift words
  | "times" => times
  | "trap" => trap
  | "type" => describeAll 0 words
  | "ulimit" => limits
  | "umask" => mask
  | "unalias" => unsetAliases
  | "unset" => unset
  | "wait" => wait
  | _ => return (← get).innerStatus

/-- Runs a builtin: what it writes is kept back until it is over, unless it is too much. -/
def run (engine : Engine) (tested : Bool) (words : List Chars) : Action Nat := do
  let before := (← get).command
  modify (fun session =>
    { session with command := words.head?, operands := words.drop 1, letters := [] })
  let finish : Action Unit :=
    modify (fun session =>
      { session with command := before, held := [], heldSize := 0, writeFailed := false })
  match ← Work.outcome (carryOut engine tested (words.headD []) (words.drop 1)) with
  | .ok status =>
      Action.flush
      let failed := (← get).writeFailed
      if failed then
        Action.warn ((words.headD []) ++ ": I/O error".toList)
      let status := if failed then status ||| 1 else status
      finish
      modify (fun session => { session with status })
      return status
  | .error reason =>
      finish
      throw reason

end Builtin
end Shell
end Machine
end AstLink
