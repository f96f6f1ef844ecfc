import AstLink.Machine.Shell.Search

namespace AstLink
namespace Machine
namespace Shell
namespace Builtin

/-!
Builtins that set things: variables, arguments, options and aliases.
-/

/-- Shows the variables that have a mark, sorted, with a word before each. -/
def showVariables (start : Chars) (shown : Variable -> Bool) : Action Unit := do
  let bindings := (← get).bindings.filter shown
  let sorted := bindings.mergeSort (fun a b => Chars.notAfter a.name b.name)
  let start := if start.isEmpty then [] else start ++ [' ']
  for binding in sorted do
    let value :=
      match binding.value with
      | some value => '=' :: Action.quoted value
      | none => []
    Action.say (start ++ binding.name ++ value ++ ['\n'])

/-- Marks variables, and sets those that are given a value. -/
def mark (name : Chars) (marks : Action.Marks) : Action Nat := do
  let option ← Action.nextLetter? "p"
  let operands := (← get).operands
  if option.isSome || operands.isEmpty then
    showVariables name (fun binding =>
      if marks.constant then binding.constant else binding.exported)
  else
    for operand in operands do
      if operand.contains '=' then
        let (name, value) := Action.halves operand
        Action.setMarked name (some value) marks
      else
        match Action.binding? (← get) operand with
        | some binding =>
            Action.put
              { binding with
                exported := binding.exported || marks.exported
                constant := binding.constant || marks.constant }
        | none => Action.setMarked operand none marks
  return 0

/-- Takes variables or functions away. -/
def unset : Action Nat := do
  let rec letters (last : Option Char) : Nat -> Action (Option Char)
    | 0 => return last
    | bound + 1 => do
        match ← Action.nextLetter? "vf" with
        | some letter => letters (some letter) bound
        | none => return last
  let kind ← letters none Work.bound
  for name in (← get).operands do
    if kind = some 'f' then
      modify (fun session =>
        { session with functions := session.functions.filter (fun entry => entry.1 != name) })
    else Action.unsetVariable name
  return 0

def keepToFunction (words : List Chars) : Action Nat := do
  if (← get).kept.isEmpty then Action.fail "not in a function".toList
  for word in words do
    Action.keepLocal word {}
  return 0

/-! ## Options and arguments -/

def showOptions (readable : Bool) : Action Unit := do
  let on := (← get).options
  if readable then Action.say "Current option settings\n".toList
  for (name, _) in Action.options do
    let isOn := on.contains name
    Action.say
      (if readable then
        Chars.padRight ' ' 16 name.toList ++ (if isOn then "on\n" else "off\n").toList
      else "set ".toList ++ (if isOn then "-o " else "+o ").toList ++ name.toList ++ ['\n'])

/-- Sets options by letters; an `o` takes the next word for a name.  The result are the words that
are left, and the letters that only a command line may have. -/
def setLetters (commandLine on : Bool) : Chars -> List Chars -> Action (List Chars × Chars)
  | [], words => return (words, [])
  | letter :: letters, words => do
      if commandLine && (letter = 'c' || letter = 'l') then
        let (words, found) ← setLetters commandLine on letters words
        return (words, letter :: found)
      else if letter = 'o' then
        match words with
        | [] => showOptions on
        | name :: _ =>
            if Action.options.any (fun option => option.1.toList == name) then
              Action.setOption (String.ofList name) on
            else Action.fail ("Illegal option -o ".toList ++ name)
        setLetters commandLine on letters (words.drop 1)
      else
        Action.setLetter letter on
        setLetters commandLine on letters words

/-- What words that may begin with options say. -/
structure Given where
  rest : List Chars
  /-- Whether the options were ended by a sign of their own, or there were none. -/
  ended : Bool := false
  letters : Chars := []

def setWords (commandLine : Bool) (letters : Chars) : Nat -> List Chars -> Action Given
  | 0, words => return { rest := words, letters }
  | bound + 1, words => do
      match words with
      | ['-', '-'] :: rest => return { rest, ended := true, letters }
      | ['-'] :: rest =>
          if !commandLine then
            Action.setOption "xtrace" false
            Action.setOption "verbose" false
          return { rest, letters }
      | (sign :: body) :: rest =>
          if sign = '-' || sign = '+' then
            let (rest, found) ← setLetters commandLine (sign = '-') body rest
            setWords commandLine (letters ++ found) bound rest
          else return { rest := words, letters }
      | words => return { rest := words, letters }

def setArguments (arguments : List Chars) : Action Unit :=
  modify (fun session =>
    { session with arguments, optionIndex := 1, optionOffset := none })

/-- Sets options and arguments, or shows all variables. -/
def set (words : List Chars) : Action Nat := do
  if words.isEmpty then showVariables [] (fun binding => binding.value.isSome)
  else
    let given ← setWords false [] (words.length + 1) words
    if given.ended || !given.rest.isEmpty then setArguments given.rest
  return 0

/-- Drops arguments. -/
def shift (words : List Chars) : Action Nat := do
  let count ←
    match words with
    | word :: _ => Action.number word
    | [] => pure 1
  let arguments := (← get).arguments
  if arguments.length < count then Action.fail "can\x27t shift that many".toList
  setArguments (arguments.drop count)
  return 0

/-! ## Reading options of the script -/

/-- What came of looking at the next option. -/
structure Step where
  letter : Char
  /-- What the option is given; nothing if the variable for it is taken away. -/
  given : Option (Option Chars) := none
  complaint : Chars := []
  index : Nat
  /-- The place in the word before, if it holds more letters. -/
  offset : Option Nat := none
  isLast : Bool := false

def stepOption (known : Chars) (words : List Chars) (index : Nat) (offset : Option Nat) : Step :=
  let quiet := known.head? = some ':'
  let known := if quiet then known.drop 1 else known
  let previous := if index ≤ 1 then none else words[index - 2]?
  let rest : Chars :=
    match previous, offset with
    | some word, some offset => word.drop offset
    | _, _ => []
  let start : Option (Chars × Nat) :=
    if !rest.isEmpty then some (rest, index)
    else
      match words[index - 1]? with
      | some ('-' :: letter :: letters) =>
          if letter = '-' && letters.isEmpty then none else some (letter :: letters, index + 1)
      | _ => none
  match start with
  | none =>
      let passed := rest.isEmpty && words[index - 1]? = some ['-', '-']
      { letter := '?', index := if passed then index + 1 else index, isLast := true }
  | some ([], _) => { letter := '?', index, isLast := true }
  | some (letter :: letters, next) =>
      let word := words.getD (next - 2) []
      let place := if letters.isEmpty then none else some (word.length - letters.length)
      match known.dropWhile (fun char => char != letter) with
      | [] =>
          if quiet then { letter := '?', given := some (some [letter]), index := next, offset := place }
          else
            { letter := '?'
              given := some none
              complaint := "Illegal option -".toList ++ [letter, '\n']
              index := next
              offset := place }
      | _ :: ':' :: _ =>
          if !letters.isEmpty then { letter, given := some (some letters), index := next }
          else
            match words[next - 1]? with
            | some word => { letter, given := some (some word), index := next + 1 }
            | none =>
                if quiet then { letter := ':', given := some (some [letter]), index := next }
                else
                  { letter := '?'
                    given := some none
                    complaint := "No arg for -".toList ++ letter :: " option\n".toList
                    index := next }
      | _ => { letter, given := some (some []), index := next, offset := place }

/-- Reads the next option of the script, or of words that are given. -/
def getOptions : Action Nat := do
  Action.noOptions
  let session ← get
  match session.operands with
  | known :: name :: others =>
      let words := if others.isEmpty then session.arguments else others
      let isPast := words.length + 1 < session.optionIndex
      let index := if isPast then 1 else session.optionIndex
      let offset := if isPast then none else session.optionOffset
      let step := stepOption known words index offset
      match step.given with
      | some (some value) => Action.setVariable "OPTARG".toList value
      | some none => Action.unsetVariable "OPTARG".toList
      | none => pure ()
      Action.complain step.complaint
      Action.setKnown "OPTIND".toList (some (Chars.ofNat step.index)) {} true
      modify (fun session =>
        { session with optionIndex := step.index, optionOffset := step.offset })
      Action.setVariable name [step.letter]
      return if step.isLast then 1 else 0
  | _ => Action.fail "Usage: getopts optstring var [arg...]".toList

/-! ## Reading lines -/

/-- A line in the making: its characters, latest first, and where it is split. -/
structure Line where
  cells : List Cell := []
  size : Nat := 0
  parts : List Stretch := []
  /-- Where the current stretch begins. -/
  first : Nat := 0

def Line.add (line : Line) (char : Char) : Line :=
  { line with cells := .sign char true :: line.cells, size := line.size + 1 }

/-- Ends the current stretch. -/
def Line.cut (line : Line) (first : Nat) : Line :=
  { line with parts := ⟨line.first, line.size, false⟩ :: line.parts, first }

/-- Adds what was read to a line.  `heed` says that a backslash protects the character behind it,
and `waits` that one has been met.  The result says whether the line goes on. -/
def addRead (heed : Bool) : Bool -> Chars -> Line -> Bool × Bool × Line
  | waits, [], line => (true, waits, line)
  | waits, char :: rest, line =>
      if char = '\x00' then addRead heed waits rest line
      else if waits then
        let line := line.cut line.size
        if char = '\n' then addRead heed false rest { line with first := line.size }
        else
          let line := line.add char
          addRead heed false rest { line with first := line.size }
      else if heed && char = '\\' then addRead heed true rest line
      else if char = '\n' then (false, false, line)
      else addRead heed false rest (line.add char)

/-- Reads a line.  The result says whether it had an end. -/
def readLine (heed waits : Bool) (line : Line) : Nat -> Action (Bool × Line)
  | 0 => return (false, line)
  | bound + 1 => do
      match ← Work.expectText (.readLine 0) with
      | .error _ | .ok [] => return (false, line)
      | .ok text =>
          let (goesOn, waits, line) := addRead heed waits text line
          if goesOn then readLine heed waits line bound else return (true, line)

/-- Sets variables to fields, and those for which there is none to nothing. -/
def setFields : List Chars -> List Chars -> Action Unit
  | [], _ => return
  | name :: names, fields => do
      Action.setVariable name (fields.headD [])
      setFields names (fields.drop 1)

def read : Action Nat := do
  let rec letters (raw : Bool) : Nat -> Action Bool
    | 0 => return raw
    | bound + 1 => do
        match ← Action.nextLetter? "p:r" with
        | some letter => letters (raw || letter = 'r') bound
        | none => return raw
  let raw ← letters false Work.bound
  let names := (← get).operands
  if names.isEmpty then Action.fail "arg count".toList
  let (ended, line) ← readLine (!raw) false {} Work.bound
  let line := line.cut line.size
  let separators := Expansion.separators (← get)
  let fields :=
    Field.split separators (some names.length) line.cells.reverse line.parts.reverse
  setFields names (fields.map Cell.text)
  return if ended then 0 else 1

/-! ## Aliases -/

def setAliases (words : List Chars) : Action Nat := do
  if words.isEmpty then
    let aliases := (← get).aliases
    for number in List.range Action.rows do
      for (name, value) in aliases.filter (fun entry => Action.row entry.1 = number) do
        Action.say (Search.aliasLine name value)
    return 0
  else
    let mut status := 0
    for word in words do
      let hasValue := (word.drop 1).contains '='
      if hasValue then
        let start := word.take 1
        let (name, value) := Action.halves (word.drop 1)
        let name := start ++ name
        modify (fun session =>
          { session with
            aliases :=
              if session.aliases.any (fun entry => entry.1 = name) then
                session.aliases.map (fun entry =>
                  if entry.1 = name then (name, value) else entry)
              else session.aliases ++ [(name, value)] })
      else
        match (← get).aliases.lookup word with
        | some value => Action.say (Search.aliasLine word value)
        | none =>
            Action.complain ("alias: ".toList ++ word ++ " not found\n".toList)
            status := 1
    return status

def unsetAliases : Action Nat := do
  match ← Action.nextLetter? "a" with
  | some _ =>
      modify (fun session => { session with aliases := [] })
      return 0
  | none =>
      let mut status := 0
      for name in (← get).operands do
        if ((← get).aliases.lookup name).isSome then
          modify (fun session =>
            { session with aliases := session.aliases.filter (fun entry => entry.1 != name) })
        else
          Action.complain ("unalias: ".toList ++ name ++ " not found\n".toList)
          status := 1
      return status

end Builtin
end Shell
end Machine
end AstLink
