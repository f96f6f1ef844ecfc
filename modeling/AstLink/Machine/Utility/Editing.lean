import AstLink.Machine.Utility.Editing.Script
import AstLink.Machine.Utility.Source

namespace AstLink
namespace Machine
namespace Utility
namespace Editing

/-!
`sed`, which edits texts line by line as a script says.

For every line the commands of the script are carried out on it, one after another; then the line is
written, with what was to be added behind it.
-/

/-- A text that is edited, and whether the end of a line follows it. -/
structure Space where
  text : Chars := []
  ended : Bool := true

/-- Where a command with two limits is. -/
inductive Phase where
  | waiting
  /-- Within its lines, which end with a certain line if that is known. -/
  | within (last : Option Nat)
  | past
  deriving DecidableEq, Repr

/-- What is written behind a line. -/
inductive Addition where
  | text (text : Chars)
  | file (path : Chars)
  | line (text : Chars)

/-- Where lines are written. -/
structure Output where
  /-- The path of a file, or nothing for the usual output. -/
  path : Option Chars
  descriptor : Nat
  /-- Whether the last line was written without its end. -/
  unended : Bool := false

structure InPlace where
  path : Chars
  mode : Nat
  written : List Chars := []

/-- How files are edited. -/
structure Manner where
  script : Script
  quiet : Bool := false
  /-- Whether every file is edited by itself. -/
  separate : Bool := false
  /-- The ending of the names under which files are kept, if they are edited in their places. -/
  inPlace : Option Chars := none
  separator : Char := '\n'
  width : Nat := 70
  unbuffered : Bool := false

structure State where
  pattern : Space := {}
  hold : Space := {}
  number : Nat := 0
  files : List Chars
  feed : Option Feed := none
  name : Chars := ['-']
  /-- The commands with two limits that are not waiting. -/
  phases : List (Nat × Phase) := []
  additions : List Addition := []
  replaced : Bool := false
  lastUsed : Option Regex.Pattern := none
  outputs : List Output := []
  readers : List (Chars × Feed) := []
  unended : Bool := false
  edited : Option InPlace := none

abbrev Edit := StateT State Task

/-! ## Writing -/

/-- Writes to the usual output. -/
def emit (text : Chars) : Edit Unit := do
  match (← get).edited with
  | some edited =>
      modify (fun state =>
        { state with edited := some { edited with written := text :: edited.written } })
  | none => (Task.say text : Task Unit)

/-- Writes the end of the last line, if it is missing. -/
def endLine (manner : Manner) : Edit Unit := do
  if (← get).unended then
    emit [manner.separator]
    modify (fun state => { state with unended := false })

/-- Writes a text as it is, behind a whole line. -/
def emitText (manner : Manner) (text : Chars) : Edit Unit := do
  endLine manner
  emit text

def emitLine (manner : Manner) (space : Space) : Edit Unit := do
  endLine manner
  emit (space.text ++ if space.ended then [manner.separator] else [])
  modify (fun state => { state with unended := !space.ended })

/-- Writes a line to a file of the script. -/
def writeTo (manner : Manner) (path : Chars) (space : Space) : Edit Unit := do
  let text := space.text ++ if space.ended then [manner.separator] else []
  match (← get).outputs.find? (fun output => output.path = some path) with
  | none => return
  | some output =>
      let text := if output.unended then manner.separator :: text else text
      if output.descriptor = 1 then emit text
      else
        let _ ← (Work.write output.descriptor text : Task _)
      let output := { output with unended := !space.ended }
      modify (fun state =>
        { state with
          outputs := state.outputs.map (fun other =>
            if other.path = output.path then output else other) })

/-- Writes what is to be added behind a line. -/
def emitAdditions (manner : Manner) : Edit Unit := do
  let additions := (← get).additions.reverse
  modify (fun state => { state with additions := [] })
  for addition in additions do
    match addition with
    | .text text => emitText manner text
    | .line text => emitLine manner ⟨text, true⟩
    | .file path =>
        match ← (readPath (if path = "/dev/stdin".toList then ['-'] else path) : Task _) with
        | .ok text => if !text.isEmpty then emitText manner text
        | .error _ => pure ()

/-! ## Reading -/

def closeFile (manner : Manner) : Edit Unit := do
  match (← get).feed with
  | none => return
  | some feed =>
      (closeSource feed.source : Task Unit)
      modify (fun state => { state with feed := none })
      match (← get).edited, manner.inPlace with
      | some edited, some ending =>
          modify (fun state => { state with edited := none, unended := false })
          if !ending.isEmpty then
            let kept :=
              if ending.contains '*' then
                ending.flatMap (fun char => if char = '*' then edited.path else [char])
              else edited.path ++ ending
            let _ ← (Work.request (.rename edited.path kept) : Task Answer)
          else
            let _ ← (Work.request (.unlink edited.path) : Task Answer)
          let opening : Opening :=
            { writes := true, creates := true, truncates := true, mode := edited.mode }
          match ← (Work.openFile edited.path opening : Task _) with
          | .ok descriptor =>
              let _ ← (Work.write descriptor edited.written.reverse.flatten : Task _)
              (Work.close descriptor : Task Unit)
          | .error _ => pure ()
      | _, _ => return

def openNext (manner : Manner) : Nat -> Edit Bool
  | 0 => return false
  | bound + 1 => do
      match (← get).files with
      | [] => return false
      | path :: files => do
          modify (fun state => { state with files })
          match ← (openSource path : Task _) with
          | .error obstacle =>
              (Task.complainFirst
                ("can\x27t read ".toList ++ path ++ ": ".toList ++ obstacle.text.toList) : Task Unit)
              (Task.setStatus 2 : Task Unit)
              openNext manner bound
          | .ok source =>
              let info := (← (Work.inspectOpen source.descriptor : Task _)).toOption
              let isFile := (info.map (fun info => decide (info.sort = .file))).getD false
              if manner.inPlace.isSome && !isFile then
                (Task.complainFirst
                  ("couldn\x27t edit ".toList ++ path ++ ": not a regular file".toList) : Task Unit)
                (Task.setStatus 4 : Task Unit)
                (closeSource source : Task Unit)
                openNext manner bound
              else
                let mode := ((info.map Info.mode).getD 0o644)
                modify (fun state =>
                  { state with
                    feed := some { source, separator := manner.separator }
                    name := path
                    number := if manner.separate then 0 else state.number
                    edited := if manner.inPlace.isSome then some { path, mode } else none })
                return true

/-- Gives up a file that cannot be read. -/
def failReading {α : Type} (name : Chars) (obstacle : Obstacle) : Edit α :=
  (Task.flush *> Task.complainFirst
    ("read error on ".toList ++ name ++ ": ".toList ++ obstacle.text.toList) *> Task.stop 4 :
    Task α)

/-- The next line, if there is one.  The files are gone through one after another. -/
def nextLine? (manner : Manner) : Nat -> Edit (Option Space)
  | 0 => return none
  | bound + 1 => do
      match (← get).feed with
      | none => if ← openNext manner (bound + 1) then nextLine? manner bound else return none
      | some feed =>
          match ← (feed.line? : Task _) with
          | .error obstacle => failReading (← get).name obstacle
          | .ok (some (text, ended), feed) =>
              modify (fun state => { state with feed := some feed, number := state.number + 1 })
              return some ⟨text, ended⟩
          | .ok (none, _) => do
              closeFile manner
              nextLine? manner bound

/-- Whether the present line is the last.  With `separate` that of its file is meant. -/
def isLast (manner : Manner) : Nat -> Edit Bool
  | 0 => return true
  | bound + 1 => do
      match (← get).feed with
      | none => if ← openNext manner (bound + 1) then isLast manner bound else return true
      | some feed =>
          let (more, feed) ← (feed.hasMore : Task _)
          modify (fun state => { state with feed := some feed })
          if more then return false
          else if manner.separate then return true
          else if (← get).files.isEmpty then return true
          else
            let name := (← get).name
            (closeSource feed.source : Task Unit)
            modify (fun state => { state with feed := none })
            let isOver ← isLast manner bound
            if isOver then modify (fun state => { state with name })
            return isOver

/-- Goes on to the next line.  `more` says that it is added to the present one. -/
def advance (manner : Manner) (more : Bool) : Edit Bool := do
  emitAdditions manner
  modify (fun state => { state with replaced := if more then state.replaced else false })
  match ← nextLine? manner Work.bound with
  | none => return false
  | some line =>
      modify (fun state =>
        { state with
          pattern :=
            if more then
              { line with text := state.pattern.text ++ manner.separator :: line.text }
            else line })
      return true

/-! ## Addresses -/

/-- Ends with a complaint about the script. -/
def fault {α : Type} (failure : Failure) : Edit α :=
  (Task.complainFirst ("-e expression #1, char 0: ".toList ++ failure.message) *> Task.stop 1 :
    Task α)

/-- The pattern that is meant, which is then the last that was used. -/
def patternOf (matcher : Matcher) : Edit Regex.Pattern := do
  match matcher.pattern, (← get).lastUsed with
  | some pattern, _ =>
      modify (fun state => { state with lastUsed := some pattern })
      return pattern
  | none, some pattern => return pattern
  | none, none => fault .noPattern

/-- Whether the present line is one that an address means. -/
def isAt (manner : Manner) (address : Address) : Edit Bool := do
  let state ← get
  match address with
  | .line number => return state.number = number
  | .step first width => return first ≤ state.number && (state.number - first) % width = 0
  | .last => isLast manner Work.bound
  | .pattern matcher =>
      let pattern ← patternOf matcher
      return (Regex.search? matcher.manner pattern state.pattern.text 0).isSome
  | .plus _ | .multiple _ => return false

def phaseOf (state : State) (place : Nat) (limits : Limits) : Phase :=
  match state.phases.lookup place, limits.first with
  | some phase, _ => phase
  | none, some (.line 0) => .within none
  | none, _ => .waiting

/-- Notes where a command with two limits is. -/
def setPhase (place : Nat) (phase : Phase) : Edit Unit :=
  modify (fun state =>
    { state with
      phases := (place, phase) :: state.phases.filter (fun entry => entry.1 != place) })

/-- Whether a command with two limits is carried out on the present line. -/
def isWithin (manner : Manner) (place : Nat) (limits : Limits) (first ending : Address) :
    Edit Bool := do
  let number := (← get).number
  match phaseOf (← get) place limits with
  | .within known =>
      match ending, known with
      | .line stop, _ =>
          if stop ≤ number then setPhase place .past
          return number ≤ stop
      | _, some stop =>
          if stop ≤ number then setPhase place .past
          return true
      | _, none =>
          if ← isAt manner ending then setPhase place .past
          return true
  | phase =>
      let begins ←
        match first with
        | .line start => pure (phase != .past && start ≤ number)
        | _ => isAt manner first
      if !begins then return false
      match ending with
      | .line stop =>
          if stop ≤ number then
            setPhase place .past
            match first with
            | .line start => return number ≤ stop || number = start
            | _ => return true
          else setPhase place (.within none)
      | .plus count =>
          setPhase place (if count = 0 then .past else .within (some (number + count)))
      | .multiple factor =>
          setPhase place
            (if factor = 0 then .past
             else .within (some (number - number % factor + factor)))
      | _ => setPhase place (.within none)
      return true

/-- Whether a command is carried out on the present line. -/
def isMeant (manner : Manner) (place : Nat) (limits : Limits) : Edit Bool := do
  let inside ←
    match limits.first, limits.last with
    | none, _ => pure true
    | some first, none => isAt manner first
    | some first, some ending => isWithin manner place limits first ending
  return inside != limits.negated

/-! ## Substitutions -/

/-- A replacement that is put together: the text, reversed, and how the case of letters is changed.
-/
structure Growing where
  done : Chars := []
  mode : Casing := .off
  next : Option Casing := none

def Growing.add (growing : Growing) (text : Chars) : Growing :=
  let text :=
    match growing.mode with
    | .upper => text.map Char.toUpper
    | .lower => text.map Char.toLower
    | _ => text
  match growing.next, text with
  | some .nextUpper, char :: rest =>
      { growing with done := (char.toUpper :: rest).reverse ++ growing.done, next := none }
  | some .nextLower, char :: rest =>
      { growing with done := (char.toLower :: rest).reverse ++ growing.done, next := none }
  | _, text => { growing with done := text.reverse ++ growing.done }

/-- What a match is replaced by. -/
def replacement (pieces : List Piece) (found : Regex.Found) (text : Chars) : Chars :=
  let grow (growing : Growing) (piece : Piece) : Growing :=
    match piece with
    | .text chars => growing.add chars
    | .group number => growing.add (found.group text number)
    | .casing .nextUpper => { growing with next := some .nextUpper }
    | .casing .nextLower => { growing with next := some .nextLower }
    | .casing mode => { growing with mode, next := none }
  (pieces.foldl grow {}).done.reverse

/-- Replaces matches in a text from a place on.  `count` matches were met before, the last of which
ended at `ended`; the result says whether any was replaced. -/
def substitute (substitution : Substitution) (pattern : Regex.Pattern) (text : Chars) :
    Nat -> Nat -> Option Nat -> Nat -> Chars × Bool
  | 0, place, _, _ => (text.drop place, false)
  | bound + 1, place, ended, count =>
      match Regex.search? substitution.matcher.manner pattern text place with
      | none => (text.drop place, false)
      | some found =>
          let before := (text.drop place).take (found.first - place)
          let isEmpty := found.last = found.first
          let after := (text.drop found.last).take 1
          if isEmpty && ended = some found.first then
            if after.isEmpty then (before, false)
            else
              let (rest, replaced) :=
                substitute substitution pattern text bound (found.last + 1) none count
              (before ++ after ++ rest, replaced)
          else
            let count := count + 1
            let isMeant := substitution.number ≤ count
            let result :=
              if isMeant then replacement substitution.pieces found text else found.group text 0
            if isMeant && !substitution.all then (before ++ result ++ text.drop found.last, true)
            else if isEmpty then
              if after.isEmpty then (before ++ result, isMeant)
              else
                let (rest, replaced) :=
                  substitute substitution pattern text bound (found.last + 1) none count
                (before ++ result ++ after ++ rest, isMeant || replaced)
            else
              let (rest, replaced) :=
                substitute substitution pattern text bound found.last (some found.last) count
              (before ++ result ++ rest, isMeant || replaced)

/-! ## Commands -/

def plainly (char : Char) : Chars :=
  match char with
  | '\\' => "\\\\".toList
  | '\x07' => "\\a".toList
  | '\x08' => "\\b".toList
  | '\x0c' => "\\f".toList
  | '\n' => "\\n".toList
  | '\r' => "\\r".toList
  | '\t' => "\\t".toList
  | '\x0b' => "\\v".toList
  | char =>
      if isShown char then [char] else '\\' :: Chars.padLeft '0' 3 (Nat.toDigits 8 char.toNat)

/-- A text shown plainly, in lines of a width; `used` characters of the present one are taken. -/
def plainLines (width used : Nat) : Chars -> Chars
  | [] => "$\n".toList
  | char :: rest =>
      let shown := plainly char
      if 0 < width && width - 1 < used + shown.length then
        "\\\n".toList ++ shown ++ plainLines width shown.length rest
      else shown ++ plainLines width (used + shown.length) rest

/-- How the commands go on after one of them. -/
inductive Course where
  /-- With the next command. -/
  | onward
  | jump (place : Nat)
  /-- With the next line; `shown` says whether the present one is written. -/
  | cycle (shown : Bool)
  /-- With the script once more on what is left of the lines. -/
  | again
  /-- Not at all. -/
  | quit (status : Nat) (shown : Bool)

def readLineOf (manner : Manner) (path : Chars) : Edit (Option Chars) := do
  let feed? ←
    match (← get).readers.lookup path with
    | some feed => pure (some feed)
    | none => do
        match ← (openSource path : Task _) with
        | .ok source => pure (some ({ source, separator := manner.separator } : Feed))
        | .error _ => pure none
  match feed? with
  | none => return none
  | some feed =>
      match ← (feed.line? : Task _) with
      | .error _ => return none
      | .ok (line, feed) =>
          modify (fun state =>
            { state with
              readers := (path, feed) :: state.readers.filter (fun entry => entry.1 != path) })
          return line.map Prod.fst

def firstLine (separator : Char) (text : Chars) : Chars :=
  text.takeWhile (fun char => char != separator)

/-- Has something written behind the present line. -/
def addLater (addition : Addition) : Edit Unit :=
  modify (fun state => { state with additions := addition :: state.additions })

def runSubstitution (manner : Manner) (substitution : Substitution) : Edit Unit := do
  let pattern ← patternOf substitution.matcher
  let text := (← get).pattern.text
  let (text, replaced) := substitute substitution pattern text (2 * text.length + 2) 0 none 0
  if replaced then
    modify (fun state =>
      { state with pattern := { state.pattern with text }, replaced := true })
    if substitution.prints then emitLine manner (← get).pattern
    match substitution.file with
    | some path => writeTo manner path (← get).pattern
    | none => return

/-- Carries out a command that stands at a place. -/
def runAction (manner : Manner) (place : Nat) (limits : Limits) (action : Action) :
    Edit Course := do
  let state ← get
  let space := state.pattern
  match action with
  | .group _ | .nothing => return .onward
  | .append text => do
      addLater (.text text)
      return .onward
  | .insert text => do
      if text != [] then emitText manner text
      return .onward
  | .change text => do
      let isOver :=
        match phaseOf state place limits with
        | .within _ => false
        | _ => true
      if limits.last.isNone || limits.negated || isOver then emitText manner text
      return .cycle false
  | .jump condition label => do
      let jumps :=
        match condition with
        | .always => true
        | .replaced => state.replaced
        | .notReplaced => !state.replaced
      if condition != .always then
        modify (fun state => { state with replaced := false })
      if !jumps then return .onward
      match manner.script.labels.lookup label with
      | some target => return .jump target
      | none => return .jump manner.script.commands.size
  | .delete => return .cycle false
  | .deleteLine => do
      let first := firstLine manner.separator space.text
      if first.length = space.text.length then return .cycle false
      else
        let text := space.text.drop (first.length + 1)
        modify (fun state => { state with pattern := { space with text } })
        return .again
  | .showNumber => do
      emitText manner (Chars.ofNat state.number ++ ['\n'])
      return .onward
  | .showName => do
      emitText manner (state.name ++ ['\n'])
      return .onward
  | .showPlainly width => do
      emitText manner (plainLines (width.getD manner.width) 0 space.text)
      return .onward
  | .take => do
      modify (fun state => { state with pattern := state.hold })
      return .onward
  | .takeMore => do
      let text := space.text ++ manner.separator :: state.hold.text
      modify (fun state => { state with pattern := ⟨text, state.hold.ended⟩ })
      return .onward
  | .hold => do
      modify (fun state => { state with hold := space })
      return .onward
  | .holdMore => do
      let text := state.hold.text ++ manner.separator :: space.text
      modify (fun state => { state with hold := ⟨text, space.ended⟩ })
      return .onward
  | .exchange => do
      modify (fun state => { state with pattern := state.hold, hold := space })
      return .onward
  | .next => do
      if ← isLast manner Work.bound then return .quit 0 true
      if !manner.quiet then emitLine manner space
      if ← advance manner false then return .onward else return .quit 0 false
  | .nextMore => do
      if ← isLast manner Work.bound then return .quit 0 true
      if ← advance manner true then return .onward else return .quit 0 true
  | .print => do
      emitLine manner space
      return .onward
  | .printLine => do
      let first := firstLine manner.separator space.text
      let ended := space.ended || first.length < space.text.length
      emitLine manner ⟨first, ended⟩
      return .onward
  | .quit status => return .quit status true
  | .quitSilently status => return .quit status false
  | .readFile path => do
      addLater (.file path)
      return .onward
  | .readLine path => do
      match ← readLineOf manner path with
      | some line => addLater (.line line)
      | none => pure ()
      return .onward
  | .substitute substitution => do
      runSubstitution manner substitution
      return .onward
  | .transliterate pairs => do
      let text := space.text.map (fun char => (pairs.lookup char).getD char)
      modify (fun state => { state with pattern := { space with text } })
      return .onward
  | .write path => do
      writeTo manner path space
      return .onward
  | .writeLine path => do
      writeTo manner path ⟨firstLine manner.separator space.text, true⟩
      return .onward
  | .clear => do
      modify (fun state => { state with pattern := { space with text := [] } })
      return .onward

def runCommands (manner : Manner) : Nat -> Nat -> Edit Course
  | 0, _ => return .cycle true
  | bound + 1, place => do
      match manner.script.commands[place]? with
      | none => return .cycle true
      | some command =>
          if ← isMeant manner place command.limits then
            match ← runAction manner place command.limits command.action with
            | .onward => runCommands manner bound (place + 1)
            | .jump target => runCommands manner bound target
            | course => return course
          else
            match command.action with
            | .group past => runCommands manner bound past
            | _ => runCommands manner bound (place + 1)

/-- Edits lines until there are no more.  `fresh` says that a new line is to be read.  The result is
the status that the script asks for. -/
def runLines (manner : Manner) : Nat -> Bool -> Edit Nat
  | 0, _ => return 0
  | bound + 1, fresh => do
      if fresh then
        if !(← advance manner false) then return 0
      let finish (shown : Bool) : Edit Unit := do
        if shown && !manner.quiet then emitLine manner (← get).pattern
        emitAdditions manner
        if manner.unbuffered then (Task.flush : Task Unit)
      match ← runCommands manner Work.bound 0 with
      | .quit status shown => do
          finish shown
          match (← get).feed with
          | some feed => (feed.giveBack : Task Unit)
          | none => pure ()
          return status
      | .again => do
          emitAdditions manner
          runLines manner bound false
      | .cycle shown => do
          finish shown
          runLines manner bound true
      | _ => runLines manner bound true

/-! ## Running -/

def filesOf (script : Script) : List Chars :=
  (script.commands.toList.filterMap (fun command =>
    match command.action with
    | .write path | .writeLine path => some path
    | .substitute substitution => substitution.file
    | _ => none)).eraseDups

/-- Opens a file that a script writes to. -/
def openOutput (path : Chars) : Task Output := do
  if path = "/dev/stdout".toList then return { path := some path, descriptor := 1 }
  else if path = "/dev/stderr".toList then return { path := some path, descriptor := 2 }
  else
    match ← Work.openFile path { writes := true, creates := true, truncates := true } with
    | .ok descriptor => return { path := some path, descriptor }
    | .error obstacle =>
        Task.complainFirst
          ("couldn\x27t open file ".toList ++ path ++ ": ".toList ++ obstacle.text.toList)
        Task.stop 4

structure ScriptPiece where
  text : Chars
  file : Option Chars

def refusePiece {α : Type} (number : Nat) (piece : ScriptPiece) (failure : Failure) (count : Nat) :
    Task α := do
  match failure with
  | .regex .bareClass => Task.complainFirst failure.message
  | _ => pure ()
  if failure.message = (Failure.regex .bareClass).message then Task.stop 4
  let place :=
    match piece.file with
    | some file =>
        let ends := (piece.text.take count).filter (fun char => char = '\n')
        "file ".toList ++ file ++ " line ".toList ++ Chars.ofNat (ends.length + 1)
    | none =>
        "-e expression #".toList ++ Chars.ofNat number ++ ", char ".toList ++ Chars.ofNat count
  Task.complainFirst (place ++ ": ".toList ++ failure.message)
  Task.stop 1

def readPieces (number : Nat) (reading : Reading) : List ScriptPiece -> Task Reading
  | [] => return reading
  | piece :: pieces => do
      match reading.add piece.text with
      | .error (failure, count) => refusePiece number piece failure count
      | .ok reading =>
          readPieces (if piece.file.isNone then number + 1 else number) reading pieces

/-- What is said to whoever called the program in a wrong way. -/
def usage (name : Chars) : Chars :=
  "Usage: ".toList ++ name ++
    " [OPTION]... \x7bscript-only-if-no-other-script\x7d [input-file]...\n\n".toList

def givenPieces (arguments : Arguments) : Task (List ScriptPiece) := do
  let mut pieces : List ScriptPiece := []
  for (letter, value) in arguments.options do
    let value := value.getD []
    if letter = 'e' then pieces := pieces ++ [⟨value, none⟩]
    else if letter = 'f' then
      match ← readPath value with
      | .ok text =>
          let text := if text.getLast? = some '\n' then text.dropLast else text
          pieces := pieces ++ [⟨text, some value⟩]
      | .error obstacle =>
          Task.complainFirst
            ("couldn\x27t open file ".toList ++ value ++ ": ".toList ++ obstacle.text.toList)
          Task.stop 4
  return pieces

/-- Edits texts. -/
def run (words : List Chars) : Task Unit := do
  modify (fun console => { console with usage := some (usage console.name) })
  let flags :=
    [flag 'n' ["quiet", "silent"], given 'e' ["expression"], given 'f' ["file"],
      flag 'E' ["regexp-extended"], flag 'r' [], flag 's' ["separate"],
      { letter := 'i', names := ["in-place"], giving := .wordIfJoined },
      given 'l' ["line-length"], flag 'u' ["unbuffered"], flag 'z' ["null-data"],
      flag '\x01' ["posix"], flag '\x02' ["sandbox"], flag '\x03' ["follow-symlinks"],
      flag 'b' ["binary"]]
  let arguments ← readArguments { flags } words
  let given ← givenPieces arguments
  let (pieces, operands) ←
    match given, arguments.operands with
    | [], script :: operands => pure ([(⟨script, none⟩ : ScriptPiece)], operands)
    | [], [] => do
        Task.pointToHelp
        Task.stop 1
    | pieces, operands => pure (pieces, operands)
  let extended := arguments.has 'E' || arguments.has 'r'
  let reading ← readPieces 1 { rest := [], extended } pieces
  let script ←
    match reading.script with
    | .ok script => pure script
    | .error (.missingLabel label) => do
        Task.complainFirst (Failure.missingLabel label).message
        Task.stop 4
    | .error failure => refusePiece pieces.length ((pieces.getLast?).getD ⟨[], none⟩) failure 0
  let outputs ← (filesOf script).mapM openOutput
  let inPlace :=
    if arguments.has 'i' then some ((arguments.value? 'i').getD []) else none
  let manner : Manner :=
    { script
      quiet := arguments.has 'n' || script.quiet
      separate := arguments.has 's' || inPlace.isSome
      inPlace
      separator := if arguments.has 'z' then '\x00' else '\n'
      width := ((arguments.value? 'l').map Chars.digitsValue).getD 70
      unbuffered := arguments.has 'u' }
  let edit : Edit Nat := do
    let status ← runLines manner Work.bound true
    closeFile manner
    return status
  let (status, _) ← edit.run { files := orInput operands, outputs }
  if status != 0 then Task.setStatus status

end Editing
end Utility
end Machine
end AstLink
