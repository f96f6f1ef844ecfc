import AstLink.Machine.Shell.Builtin.Command

namespace AstLink
namespace Machine
namespace Shell
namespace Evaluator

/-!
Carrying out commands.

Each kind of command is carried out by a definition of its own, to which the engine is given that
carries out the commands within it.  The engine is then built from these definitions, layer on
layer, as deep as commands can lie within one another.
-/

/-- What a loop does after a command that may have asked to leave it: whether it is left, and
whether that is because a function returns with a status that was given. -/
def afterTurn : Action (Bool × Bool) :=
  modifyGet (fun session =>
    match session.skip with
    | .none => ((false, false), session)
    | .leaveLoop | .nextTurn =>
        if session.skipCount ≤ 1 then
          ((session.skip = .leaveLoop, false), { session with skip := .none, skipCount := 0 })
        else ((true, false), { session with skipCount := session.skipCount - 1 })
    | .return => ((true, true), session)
    | .returnAsIs => ((true, false), session))

def insideLoop {α : Type} (body : Action α) : Action α := do
  modify (fun session => { session with loops := session.loops + 1 })
  let result ← body
  modify (fun session => { session with loops := session.loops - 1 })
  return result

/-- Repeats a command while, or until, a condition holds. -/
def loop (engine : Engine) (untilTrue : Bool) (condition body : Statement) (tested : Bool)
    (status : Nat) : Nat -> Action Nat
  | 0 => return status
  | bound + 1 => do
      let result ← engine.evaluate (some condition) { tested := true }
      let skip := (← get).skip
      let (left, returns) ← afterTurn
      if left then return if returns then result else status
      else if skip = .nextTurn then loop engine untilTrue condition body tested status bound
      else if (result = 0) = untilTrue then return status
      else
        let status ← engine.evaluate (some body) { tested }
        let (left, _) ← afterTurn
        if left then return status
        else loop engine untilTrue condition body tested status bound

/-- Repeats a command for each of some values. -/
def each (engine : Engine) (name : Chars) (body : Statement) (tested : Bool) (status : Nat) :
    List Chars -> Action Nat
  | [] => return status
  | value :: values => do
      Action.setVariable name value
      let status ← engine.evaluate (some body) { tested }
      let (left, _) ← afterTurn
      if left then return status else each engine name body tested status values

def anyFits (engine : Engine) (text : Chars) : List Word -> Action Bool
  | [] => return false
  | word :: words => do
      let pattern ← Expansion.pattern engine word
      if Pattern.matchesText pattern text then return true else anyFits engine text words

/-- Carries out the first arm that has a pattern for a text. -/
def choice (engine : Engine) (text : Chars) (manner : Manner) :
    List (List Word × Option Statement) -> Action Nat
  | [] => return 0
  | (patterns, body) :: arms => do
      if ← anyFits engine text patterns then
        match body with
        | some body => engine.evaluate (some body) manner
        | none => return 0
      else choice engine text manner arms

/-! ## Other processes -/

/-- Whether something is arranged for a signal or for the end. -/
def hasTraps : Action Bool := return (← get).traps.any (fun trap => !trap.2.isEmpty)

def noteBackground (job : Nat) : Action Unit := do
  let found ← Action.job? job
  modify (fun session =>
    { session with
      lastBackground := (found.bind (fun job => job.processes.getLast?)).map Prod.fst })

/-- Carries out a command in a shell of its own, in the background or not. -/
def subshell (engine : Engine) (background : Bool) (body : Statement)
    (redirections : List Redirection) (manner : Manner) : Action Nat := do
  let goals ← redirections.mapM (Redirection.prepare engine)
  let inside (manner : Manner) : Action Nat := do
    Redirection.carryOutAll engine goals
    engine.evaluate (some body) { manner with last := true }
  if !background && manner.last && !(← hasTraps) then inside manner
  else
    let job ← Action.beginJob
    engine.start job (do
      if background then Engine.hide true
      let _ ← inside { manner with tested := manner.tested && !background })
    if background then
      noteBackground job
      return 0
    else Action.waitForJob job

/-- Starts the commands of a pipeline, each reading what the one before it writes. -/
def stages (engine : Engine) (job : Nat) (background : Bool) (manner : Manner)
    (input : Option Nat) : List Statement -> Action Unit
  | [] => return
  | stage :: others => do
      let pipe : Option (Nat × Nat) ←
        if others.isEmpty then pure none
        else
          match ← Work.request .pipe with
          | .pair source sink => pure (some (source, sink))
          | _ => Action.fail "Pipe call failed".toList
      let isFirst := ((← Action.job? job).map (fun job => job.processes.isEmpty)).getD true
      engine.start job (do
        if background then Engine.hide isFirst
        if let some (source, _) := pipe then Work.close source
        if let some input := input then
          if input != 0 then
            let _ ← Work.request (.duplicate input 0)
            Work.close input
        if let some (_, sink) := pipe then
          if sink != 1 then
            let _ ← Work.request (.duplicate sink 1)
            Work.close sink
        let _ ← engine.evaluate (some stage) { manner with last := true })
      if let some input := input then Work.close input
      if let some (_, sink) := pipe then Work.close sink
      stages engine job background manner (pipe.map Prod.fst) others

def pipeline (engine : Engine) (commands : List Statement) (background : Bool)
    (manner : Manner) : Action Nat := do
  let job ← Action.beginJob
  stages engine job background manner none commands
  if background then
    noteBackground job
    return 0
  else Action.waitForJob job

/-! ## Simple commands -/

def firstFields (engine : Engine) : List Word -> Action (List Chars × List Word)
  | [] => return ([], [])
  | word :: words => do
      match ← Expansion.fields engine word with
      | [] => firstFields engine words
      | fields => return (fields, words)

/-- The words of a command that have been expanded, and those that have not. -/
structure Words where
  done : List Chars
  left : List Word := []

/-- The words with one more field, if there is none behind those passed. -/
def atLeast (engine : Engine) (count : Nat) (words : Words) : Action Words := do
  if count < words.done.length then return words
  else
    let (fields, left) ← firstFields engine words.left
    return { done := words.done ++ fields, left }

/-- Passes over the options of `command`, given how many words have been passed.  The result are all
words that were expanded, how many come before the command that is meant, and the search path that
was asked for; nothing if no command is meant. -/
def behindCommand (engine : Engine) (path : Option Chars) :
    Nat -> Nat -> Words -> Action (Words × Option (Nat × Option Chars))
  | 0, _, words => return (words, none)
  | bound + 1, passed, words => do
      let words ← atLeast engine passed words
      match words.done[passed]? with
      | none => return (words, none)
      | some ['-', '-'] =>
          let words ← atLeast engine (passed + 1) words
          if passed + 1 < words.done.length then return (words, some (passed + 1, path))
          else return (words, none)
      | some ('-' :: letter :: letters) =>
          if (letter :: letters).all (fun letter => letter = 'p') then
            behindCommand engine (some Search.usualPath) bound (passed + 1) words
          else return (words, none)
      | some _ => return (words, some (passed, path))

/-- What is known about a simple command before it is carried out. -/
structure Plan where
  words : Words
  /-- The words that come before those of the command itself. -/
  before : List Chars := []
  builtin : Option Kind := none
  /-- Whether a mistake ends the script; known once the first builtin is. -/
  special : Option Bool := none
  functions : Bool := true
  path : Option Chars := none

/-- Finds out what is special about a command, passing over `command`. -/
def plan (engine : Engine) : Nat -> Plan -> Action Plan
  | 0, plan => return plan
  | bound + 1, current => do
      match current.words.done with
      | [] => return current
      | name :: _ =>
          let session ← get
          let isFunction := current.functions && (session.functions.lookup name).isSome
          match if isFunction then none else kinds.lookup (String.ofList name) with
          | none => return { current with builtin := none }
          | some kind =>
              let current :=
                { current with
                  builtin := some kind, special := some (current.special.getD kind.special) }
              if name != "command".toList then return current
              else
                let (words, found) ← behindCommand engine none Work.bound 1 current.words
                match found with
                | none => return { current with words }
                | some (passed, path) =>
                    plan engine bound
                      { current with
                        words := { words with done := words.done.drop passed }
                        before := current.before ++ words.done.take passed
                        functions := false
                        path := path.orElse (fun _ => current.path) }

/-- Expands the words that are left.  Where a builtin takes assignments, those are not split. -/
def remaining (engine : Engine) (assigns : Bool) : List Word -> Action (List Chars)
  | [] => return []
  | word :: words => do
      let fields ←
        if assigns && Word.isAssignment word then do
          pure [← Expansion.assignment engine word]
        else Expansion.fields engine word
      return fields ++ (← remaining engine assigns words)

def showCommand (engine : Engine) (assignments words : List Chars) : Action Unit := do
  let session ← get
  if session.options.contains "xtrace" && !session.inTrace then
    modify (fun session => { session with inTrace := true })
    let start ← Expansion.quotedText engine ((← Action.value? "PS4").getD [])
    modify (fun session => { session with inTrace := false })
    let text := start ++ Chars.join [' '] (assignments ++ words) ++ ['\n']
    let _ ← Work.write session.traceTo text

/-- Carries out assignments.  With `local` they hold only for the command. -/
def assignments (engine : Engine) (isLocal exported : Bool) : List Word -> Action (List Chars)
  | [] => return []
  | word :: words => do
      let text ← Expansion.assignment engine word
      if isLocal then Action.keepLocal text { exported := true }
      else Action.assign text { exported }
      return text :: (← assignments engine isLocal exported words)

def runProgram (place : Option Nat) (path : Chars) (words : List Chars) (manner : Manner) :
    Action Nat := do
  let place := place.getD 0
  if manner.last && !(← hasTraps) then Action.become path place words
  else
    let job ← Action.beginJob
    let child : Action Unit := Action.become path place words
    match ← Work.fork child (fun _ session => .exit session.status) with
    | .ok process => Action.addProcess job process
    | .error _ =>
        Action.endJob job
        Action.fail "Cannot fork".toList
    Action.waitForJob job

def call (engine : Engine) (body : Statement) (arguments : List Chars) (tested : Bool) :
    Action Nat := do
  let before ← get
  modify (fun session =>
    { session with
      arguments, optionIndex := 1, optionOffset := none, loops := 0, inFunction := true })
  let result ← Work.outcome (engine.evaluate (some body) { tested })
  modify (fun session =>
    { session with
      arguments := before.arguments
      optionIndex := before.optionIndex
      optionOffset := before.optionOffset
      loops := before.loops
      inFunction := before.inFunction
      skip :=
        match session.skip with
        | .return | .returnAsIs => .none
        | skip => skip })
  match result with
  | .ok _ => return (← get).status
  | .error reason => throw reason

/-- Gives back what functions and commands kept to themselves, down to so many of them. -/
def giveBackTo (count : Nat) : Nat -> Action Unit
  | 0 => return
  | bound + 1 => do
      match (← get).kept with
      | kept :: others =>
          if count < others.length + 1 then
            modify (fun session => { session with kept := others })
            Action.giveBack kept
            giveBackTo count bound
          else return
      | [] => return

/-- Finds the command and carries it out. -/
def dispatch (engine : Engine) (current : Plan) (words : List Chars) (manner : Manner) :
    Action Nat := do
  let builtin : Action Nat := do
    match ← Work.outcome (Builtin.run engine manner.tested words) with
    | .ok _ =>
        Action.glance
        return (← get).status
    | .error .mistake =>
        if current.special = some true then throw .mistake
        Action.glance
        return (← get).status
    | .error reason => throw reason
  match words, current.builtin with
  | [], _ | _, some _ => builtin
  | name :: arguments, none =>
      match ← Search.find current.functions current.path name with
      | .builtin _ => builtin
      | .function body =>
          let _ ← call engine body arguments manner.tested
          Action.glance
          return (← get).status
      | .program place =>
          let path ← Action.searchPath
          runProgram place (current.path.getD path) words manner
      | .nothing obstacle =>
          Action.warn (Search.complaint name obstacle)
          modify (fun session => { session with status := 127 })
          return 127

def simple (engine : Engine) (settings words : List Word) (redirections : List Redirection)
    (manner : Manner) : Action Nat := do
  modify (fun session => { session with innerStatus := 0 })
  let (fields, left) ← firstFields engine words
  let current ← plan engine Work.bound { words := { done := fields, left } }
  let assigns := (current.builtin.map Kind.assigns).getD false
  let rest ← remaining engine assigns current.words.left
  let words := current.words.done ++ rest
  let isLocal := !words.isEmpty && current.special != some true
  let keptBefore := (← get).kept.length
  let savedBefore := (← get).saved.length
  if isLocal then modify (fun session => { session with kept := [] :: session.kept })
  let isExec := current.builtin.isSome && words.head? = some "exec".toList
  let goals ← redirections.mapM (Redirection.prepare engine)
  modify (fun session => { session with traceTo := 2 })
  Redirection.begin goals
  let status ←
    if ← Redirection.tryAll engine goals then do
      modify (fun session =>
        match session.saved.head?.bind (fun entries => entries.lookup 2) with
        | some (.under kept) => if goals.isEmpty then session else { session with traceTo := kept }
        | _ => session)
      let texts ← assignments engine isLocal (isExec && 1 < words.length) settings
      showCommand engine texts (current.before ++ words)
      dispatch engine current words manner
    else
      modify (fun session => { session with status := 2 })
      if current.special = some true then throw .mistake
      pure 2
  Action.endDownTo savedBefore (isExec && !goals.isEmpty) Work.bound
  giveBackTo keptBefore Work.bound
  return status

/-! ## All commands -/

def atLine (line : Nat) : Action Unit := modify (fun session => { session with line })

/-- Carries out a command, as far as it has a status of its own. -/
def body (engine : Engine) (manner : Manner) : Statement -> Action Nat
  | .simple line settings words redirections => do
      atLine line
      simple engine settings words redirections manner
  | .redirected line inner redirections => do
      atLine line
      let goals ← redirections.mapM (Redirection.prepare engine)
      let before := (← get).saved.length
      Redirection.begin goals
      let status ←
        if ← Redirection.tryAll engine goals then
          engine.evaluate (some inner) { tested := manner.tested }
        else pure 2
      Action.endDownTo before false Work.bound
      return status
  | .background line inner redirections => do
      atLine line
      subshell engine true inner redirections manner
  | .subshell line inner redirections => do
      atLine line
      subshell engine false inner redirections manner
  | .pipeline commands background => pipeline engine commands background manner
  | .negated inner => do
      let status ← engine.evaluate (some inner) { tested := true }
      if (← get).skip != .none then return status
      else return if status = 0 then 1 else 0
  | .loop untilTrue condition inner =>
      insideLoop (loop engine untilTrue condition inner manner.tested 0 Work.bound)
  | .each line name words inner => do
      atLine line
      let values ← Expansion.allFields engine words
      insideLoop (each engine name inner manner.tested 0 values)
  | .choice line word arms => do
      atLine line
      let text ← Expansion.text engine { home := true } word
      choice engine text manner arms
  | .define name inner => do
      modify (fun session =>
        let others := session.functions.filter (fun entry => entry.1 != name)
        { session with functions := (name, inner) :: others })
      return 0
  | .both .. | .either .. | .sequence .. | .branch .. => return (← get).status

/-- Whether a command that fails ends a script that asks for it. -/
def isChecked : Statement -> Bool
  | .simple .. | .subshell .. | .background .. | .pipeline .. => true
  | _ => false

/-- Carries out a command within an engine for those inside it. -/
def evaluate (engine : Engine) (statement : Option Statement) (manner : Manner) :
    Action Nat := do
  let _ ← Work.request .rest
  let finish (checked : Bool) : Action Nat := do
    let session ← get
    if checked && !manner.tested && session.status != 0 &&
        session.options.contains "errexit" then throw .finished
    engine.heed
    if manner.last then throw .finished
    return (← get).status
  let isSkipping : Action Bool := return (← get).skip != .none
  match statement with
  | none => finish false
  | some statement =>
      if ← Action.isOn "noexec" then finish false
      else
        engine.heed
        match statement with
        | .both first second =>
            let status ← engine.evaluate (some first) { tested := true }
            if status = 0 && !(← isSkipping) then
              let _ ← engine.evaluate (some second) manner
            finish false
        | .either first second =>
            let status ← engine.evaluate (some first) { tested := true }
            if status != 0 && !(← isSkipping) then
              let _ ← engine.evaluate (some second) manner
            finish false
        | .sequence first second =>
            let _ ← engine.evaluate (some first) { tested := manner.tested }
            if !(← isSkipping) then
              let _ ← engine.evaluate (some second) manner
            finish false
        | .branch condition yes no =>
            let status ← engine.evaluate (some condition) { tested := true }
            if !(← isSkipping) then
              match status, no with
              | 0, _ =>
                  let _ ← engine.evaluate (some yes) manner
              | _, some no =>
                  let _ ← engine.evaluate (some no) manner
              | _, none => modify (fun session => { session with status := 0 })
            finish false
        | statement =>
            let status ← body engine manner statement
            modify (fun session => { session with status })
            finish (isChecked statement)

/-- The engine for commands that lie within one another at most so deep. -/
def engine : Nat -> Engine
  | 0 => { evaluate := fun _ _ => Action.fail "too deep".toList }
  | depth + 1 => { evaluate := fun statement manner => evaluate (engine depth) statement manner }

/-- How deep commands may lie within one another. -/
def maxDepth : Nat := 1000000000

/-! ## A shell from its beginning -/

def ownVariables : List (String × String) :=
  [("OPTIND", "1"), ("PS4", "+ "), ("PS2", "> "), ("PS1", "# "),
    ("PATH", "/usr/local/sbin:/usr/local/bin:/usr/sbin:/usr/bin:/sbin:/bin"), ("IFS", " \t\n")]

def withEnvironment (environment : List (Chars × Chars)) : Action Unit := do
  for (name, value) in ownVariables do
    Action.put { name := name.toList, value := some value.toList, lasting := true }
  for name in ["MAILPATH", "MAIL"] do
    Action.put { name := name.toList, value := none, lasting := true }
  for (name, value) in environment do
    if isName name then Action.setKnown name (some value) { exported := true } true
  Action.setKnown "IFS".toList (some Action.usualBlanks) {} true
  Action.setKnown "OPTIND".toList (some ['1']) {} true
  let parent := (← Work.expectNumber .parent).toOption.getD 0
  Action.setKnown "PPID".toList (some (Chars.ofNat parent)) {} true

/-- Finds out which path the working directory has, if the script may be told another than the real
one. -/
def findWorking : Action Unit := do
  let physical := (← Work.expectText .working).toOption.getD []
  let claimed := (← Action.value? "PWD").getD []
  let working ←
    if claimed.head? = some '/' then do
      match ← Work.inspect claimed true, ← Work.inspect ['.'] true with
      | .ok a, .ok b => pure (if a.identity = b.identity then claimed else physical)
      | _, _ => pure physical
    else pure physical
  modify (fun session => { session with working, physical })
  Action.setMarked "PWD".toList (some working) { exported := true }

def readScript (descriptor : Nat) : Action Chars := do
  return (← Work.readAll descriptor).toOption.getD []

/-- Does what the words of a shell's own command line say. -/
def runWords (engine : Engine) (words : List Chars) : Action Unit := do
  let given ← Builtin.setWords true [] (words.length + 1) words
  let isText := given.letters.contains 'c'
  match isText, given.rest with
  | true, [] => Action.fail "-c requires an argument".toList
  | true, text :: rest =>
      match rest with
      | name :: arguments => modify (fun session => { session with name, arguments })
      | [] => pure ()
      let _ ← engine.runText text false
      if ← Action.isOn "stdin" then
        let _ ← engine.runFile (← readScript 0)
  | false, rest =>
      match rest with
      | name :: arguments =>
          if ← Action.isOn "stdin" then
            modify (fun session => { session with arguments := name :: arguments })
            let _ ← engine.runFile (← readScript 0)
          else
            match ← Work.openFile name { reads := true } with
            | .error obstacle =>
                let reason := Redirection.reason "No such file" obstacle
                Action.fail ("cannot open ".toList ++ name ++ ": ".toList ++ reason)
            | .ok descriptor =>
                modify (fun session => { session with name, arguments })
                let text ← readScript descriptor
                Work.close descriptor
                let _ ← engine.runFile text
      | [] =>
          Action.setOption "stdin" true
          let _ ← engine.runFile (← readScript 0)

def activity (words : List Chars) (environment : List (Chars × Chars)) : Activity :=
  let engine := engine maxDepth
  let all : Action Unit := engine.live (do
    let root := (← Work.expectNumber .self).toOption.getD 0
    modify (fun session => { session with root })
    withEnvironment environment
    findWorking
    runWords engine (words.drop 1))
  all.activity { name := words.headD "sh".toList } (fun _ session => .exit session.status)

end Evaluator
end Shell
end Machine
end AstLink
