import AstLink.Machine.Signal
import AstLink.Machine.Shell.Arithmetic
import AstLink.Machine.Shell.Token
import AstLink.Machine.Work

namespace AstLink
namespace Machine
namespace Shell

/-!
The state of a shell: what a script has set, which commands it is in the middle of, and what it has
written but not yet handed to the machine.
-/

/-- Why a shell breaks off what it is doing. -/
inductive Break where
  | mistake
  /-- The script asks for the end. -/
  | exit
  /-- The process has done what it was started for. -/
  | finished
  deriving DecidableEq, Repr

/-- A variable.  One without a value may still be marked. -/
structure Variable where
  name : Chars
  value : Option Chars
  exported : Bool := false
  constant : Bool := false
  /-- Whether the variable stays known when its value is taken away. -/
  lasting : Bool := false

/-- What a function keeps to itself, as it was before. -/
inductive Kept where
  | options (options : List String)
  /-- A variable that was not known is kept by its name. -/
  | unknown (name : Chars)
  | known (binding : Variable)

/-- A command of which the shell has to wait for the end, or several that form a pipeline. -/
structure Job where
  number : Nat
  processes : List (Nat × Option Ending)
  waited : Bool := false

namespace Job

def isDone (job : Job) : Bool := job.processes.all (fun process => process.2.isSome)

def ending (job : Job) : Ending :=
  match job.processes.getLast? with
  | some (_, some ending) => ending
  | _ => .exit 0

end Job

/-- What commands are left over for. -/
inductive Skip where
  /-- Nothing; they are carried out. -/
  | none
  | leaveLoop
  | nextTurn
  /-- A function or a file comes to its end, with a status that was given. -/
  | return
  /-- The same, with the status of the last command. -/
  | returnAsIs
  deriving DecidableEq, Repr

inductive Saved where
  | closed
  | under (descriptor : Nat)

/-- The state of a shell. -/
structure Session where
  name : Chars
  /-- The number of the process in which the script began. -/
  root : Nat := 0
  /-- How deep in subshells this one is. -/
  depth : Nat := 0
  arguments : List Chars := []
  bindings : List Variable := []
  functions : List (Chars × Statement) := []
  aliases : List (Chars × Chars) := []
  documents : List (Nat × Document) := []
  options : List String := []
  /-- Where commands were found, as a number of the directory in the search path, and whether it is
  to be looked again. -/
  found : List (Chars × Nat × Bool) := []
  status : Nat := 0
  /-- The status of the last command whose output was put in for it. -/
  innerStatus : Nat := 0
  keptStatus : Option Nat := none
  skip : Skip := .none
  skipCount : Nat := 0
  loops : Nat := 0
  /-- The line of the last command that was begun. -/
  line : Nat := 0
  /-- The name of the builtin that is running. -/
  command : Option Chars := none
  inFunction : Bool := false
  /-- The words to be read by the builtin that is running, and the rest of the one it is in. -/
  operands : List Chars := []
  letters : Chars := []
  given : Chars := []
  /-- Where the script stands in reading its own options. -/
  optionIndex : Nat := 1
  optionOffset : Option Nat := none
  /-- What each open function keeps to itself. -/
  kept : List (List Kept) := []
  /-- What descriptors were before they were redirected, for each open command. -/
  saved : List (List (Nat × Saved)) := []
  /-- Under which descriptor messages about commands go. -/
  traceTo : Nat := 2
  /-- Whether the text before such messages is being put together. -/
  inTrace : Bool := false
  jobs : List Job := []
  lastBackground : Option Nat := none
  /-- What is done on a signal; zero stands for the end of the shell. -/
  traps : List (Nat × Chars) := []
  /-- Signals that came and have not been seen to. -/
  pending : List Nat := []
  /-- What was written and is kept back, latest first, and how much it is. -/
  held : List Chars := []
  heldSize : Nat := 0
  /-- Whether something could not be written. -/
  writeFailed : Bool := false
  /-- The path of the working directory as the script sees it, if it is known. -/
  working : Chars := []
  /-- The path without links. -/
  physical : Chars := []

/-- What a shell does. -/
abbrev Action := Work Session Break

namespace Action

/-! ## Output -/

/-- How much is kept back at most before it is written. -/
def room : Nat := 8192

/-- Hands what was kept back to the machine. -/
def flush : Action Unit := do
  let session ← get
  if session.held.isEmpty then return
  let text := session.held.reverse.flatten
  set { session with held := [], heldSize := 0 }
  match ← Work.write 1 text with
  | .ok _ => return
  | .error _ => modify (fun session => { session with writeFailed := true })

/-- Writes a text to the output, which may keep it back. -/
def say (text : Chars) : Action Unit := do
  if text.isEmpty then return
  if room < (← get).heldSize + text.length then flush
  modify (fun session =>
    { session with held := text :: session.held, heldSize := session.heldSize + text.length })
  if room < text.length then flush

/-- Writes a text to the output for messages. -/
def complain (text : Chars) : Action Unit := do
  let _ ← Work.write 2 text

/-- Reports what is wrong. -/
def warn (text : Chars) : Action Unit := do
  let session ← get
  let start := session.name ++ ": ".toList ++ Chars.ofNat session.line ++ ": ".toList
  let start :=
    match session.command with
    | some command => start ++ command ++ ": ".toList
    | none => start
  complain (start ++ text ++ ['\n'])

def failWith {α : Type} (reason : Break) (status : Nat) (text : Chars) : Action α := do
  modify (fun session => { session with status })
  warn text
  flush
  throw reason

/-- Reports a mistake and breaks off. -/
def fail {α : Type} (text : Chars) : Action α := failWith .mistake 2 text

def notNumber {α : Type} (text : Chars) : Action α := fail ("Illegal number: ".toList ++ text)

def largestNumber : Int := 2147483647

def number (text : Chars) : Action Nat :=
  match Arithmetic.integer? text with
  | some value =>
      if value < 0 || largestNumber < value then notNumber text else return value.toNat
  | none => notNumber text

/-! ## Options -/

def options : List (String × Option Char) :=
  [("errexit", some 'e'), ("noglob", some 'f'), ("ignoreeof", some 'I'), ("interactive", some 'i'),
    ("monitor", some 'm'), ("noexec", some 'n'), ("stdin", some 's'), ("xtrace", some 'x'),
    ("verbose", some 'v'), ("vi", some 'V'), ("emacs", some 'E'), ("noclobber", some 'C'),
    ("allexport", some 'a'), ("notify", some 'b'), ("nounset", some 'u'), ("privileged", some 'p'),
    ("nolog", none), ("debug", none)]

def isOn (option : String) : Action Bool := return (← get).options.contains option

def setOption (option : String) (on : Bool) : Action Unit :=
  modify (fun session =>
    let others := session.options.filter (fun other => other != option)
    { session with options := if on then option :: others else others })

/-- Turns an option on or off that is given by its letter. -/
def setLetter (letter : Char) (on : Bool) : Action Unit := do
  match options.find? (fun option => option.2 = some letter) with
  | none => fail ("Illegal option -".toList ++ [letter])
  | some (option, _) =>
      setOption option on
      if on && option = "vi" then setOption "emacs" false
      if on && option = "emacs" then setOption "vi" false

def letters (session : Session) : Chars :=
  options.reverse.filterMap (fun (option, letter) =>
    if session.options.contains option then letter else none)

/-- The next option among the operands of a builtin; `known` has the letters that it takes, each
with a colon behind it if a word belongs to the option. -/
def nextLetter? (known : String) : Action (Option Char) := do
  let session ← get
  let (letters, operands) : Chars × List Chars :=
    match session.letters, session.operands with
    | [], ('-' :: letter :: letters) :: operands => (letter :: letters, operands)
    | letters, operands => (letters, operands)
  match letters with
  | [] => return none
  | letter :: letters =>
      let isFirst := session.letters.isEmpty
      if isFirst && letter = '-' && letters.isEmpty then
        set { session with operands }
        return none
      match known.toList.dropWhile (fun char => char != letter) with
      | [] =>
          set { session with operands, letters }
          fail ("Illegal option -".toList ++ [letter])
      | _ :: ':' :: _ =>
          match letters, operands with
          | [], [] =>
              set { session with operands, letters }
              fail ("No arg for -".toList ++ [letter] ++ " option".toList)
          | [], given :: operands => set { session with operands, letters := [], given }
          | given, operands => set { session with operands, letters := [], given }
          return some letter
      | _ =>
          set { session with operands, letters }
          return some letter

/-- Passes over the sign that ends options; there are none. -/
def noOptions : Action Unit := do
  let _ ← nextLetter? ""

/-! ## Variables -/

/-- The blanks at which words are split when nothing else is set. -/
def usualBlanks : Chars := [' ', '\t', '\n']

def binding? (session : Session) (name : Chars) : Option Variable :=
  session.bindings.find? (fun binding => binding.name = name)

def valueIn? (session : Session) (name : Chars) : Option Chars :=
  (binding? session name).bind Variable.value

def value? (name : String) : Action (Option Chars) := return valueIn? (← get) name.toList

/-- Replaces a variable, or adds it as the last. -/
def put (binding : Variable) : Action Unit :=
  modify (fun session =>
    { session with
      bindings :=
        if session.bindings.any (fun other => other.name = binding.name) then
          session.bindings.map (fun other =>
            if other.name = binding.name then binding else other)
        else session.bindings ++ [binding] })

def forget (name : Chars) : Action Unit :=
  modify (fun session =>
    { session with bindings := session.bindings.filter (fun other => other.name != name) })

/-- What follows from another value of some variables. -/
def heedChange (name : Chars) (value : Option Chars) : Action Unit := do
  if name = "PATH".toList then modify (fun session => { session with found := [] })
  else if name = "OPTIND".toList then
    if let some value := value then
      let index ← number value
      modify (fun session => { session with optionIndex := max index 1, optionOffset := none })

structure Marks where
  exported : Bool := false
  constant : Bool := false
  lasting : Bool := false

def Marks.isEmpty (marks : Marks) : Bool := !marks.exported && !marks.constant && !marks.lasting

/-- Sets a variable whose name is known to be one, or takes its value away.  `heeded` says that
nothing else follows from it. -/
def setKnown (name : Chars) (value : Option Chars) (marks : Marks) (heeded : Bool) :
    Action Unit := do
  let session ← get
  let marks :=
    { marks with exported := marks.exported || session.options.contains "allexport" }
  match binding? session name with
  | some before =>
      if before.constant then fail (name ++ ": is read only".toList)
      if !heeded then heedChange name value
      if value.isNone && marks.isEmpty && !before.lasting then forget name
      else
        put
          { name
            value
            exported := before.exported || marks.exported
            constant := marks.constant
            lasting := before.lasting || marks.lasting }
  | none =>
      if value.isNone && marks.isEmpty then return
      put
        { name
          value
          exported := marks.exported
          constant := marks.constant
          lasting := marks.lasting }

def setMarked (name : Chars) (value : Option Chars) (marks : Marks) : Action Unit := do
  let start := nameOf name
  if start.isEmpty || start.length != name.length then
    let shown := start ++ (name.drop start.length).takeWhile (fun char => char != '=')
    fail (shown ++ ": bad variable name".toList)
  setKnown name value marks false

def setVariable (name value : Chars) : Action Unit := setMarked name (some value) {}

/-- Takes a variable's value away. -/
def unsetVariable (name : Chars) : Action Unit := setMarked name none {}

def halves (assignment : Chars) : Chars × Chars :=
  (Chars.cut? '=' assignment).getD (assignment, [])

def assign (assignment : Chars) (marks : Marks) : Action Unit := do
  let (name, value) := halves assignment
  setKnown name (some value) marks false

/-- Keeps a variable to the function that is being called, or the options for `-`. -/
def keepLocal (text : Chars) (marks : Marks) : Action Unit := do
  let session ← get
  let add (kept : Kept) : Action Unit :=
    modify (fun session =>
      { session with
        kept :=
          match session.kept with
          | inner :: outer => (kept :: inner) :: outer
          | [] => [] })
  if text = ['-'] then add (.options session.options)
  else
    let (name, value) := halves text
    let isAssignment := text.contains '='
    match binding? session name with
    | none =>
        if isAssignment then setKnown name (some value) { marks with lasting := true } false
        else setMarked name none { marks with lasting := true }
        add (.unknown name)
    | some before =>
        put { before with lasting := true }
        if isAssignment then setKnown name (some value) marks false
        add (.known before)

def giveBack : List Kept -> Action Unit
  | [] => return
  | kept :: others => do
      match kept with
      | .options options => modify (fun session => { session with options })
      | .unknown name =>
          match binding? (← get) name with
          | some binding =>
              put { binding with lasting := false, constant := false }
              unsetVariable name
          | none => pure ()
      | .known before =>
          heedChange before.name before.value
          put before
      giveBack others

/-- How many rows there are in which variables are kept. -/
def rows : Nat := 39

def row (name : Chars) : Nat :=
  match name with
  | [] => 0
  | first :: _ => (first.toNat * 16 + name.foldl (fun sum char => sum + char.toNat) 0) % rows

/-- The variables that are handed to programs. -/
def environment (session : Session) : List (Chars × Chars) :=
  let handed := session.bindings.filterMap (fun binding =>
    match binding.value with
    | some value => if binding.exported then some (binding.name, value) else none
    | none => none)
  (List.range rows).flatMap (fun number => handed.filter (fun entry => row entry.1 = number))

def searchPath : Action Chars := return (← value? "PATH").getD []

/-- A text in quotation marks from which the shell reads it back. -/
def quotedFrom : Nat -> Chars -> Chars
  | 0, text => text
  | bound + 1, text =>
      let plain := text.takeWhile (fun char => char != '\x27')
      let rest := text.drop plain.length
      let marks := rest.takeWhile (fun char => char = '\x27')
      let rest := rest.drop marks.length
      let start := '\x27' :: plain ++ ['\x27']
      if marks.isEmpty then start
      else
        let start := start ++ '"' :: marks ++ ['"']
        if rest.isEmpty then start else start ++ quotedFrom bound rest

/-- A text in quotation marks from which the shell reads it back. -/
def quoted (text : Chars) : Chars := quotedFrom (text.length + 1) text

end Action

end Shell
end Machine
end AstLink
