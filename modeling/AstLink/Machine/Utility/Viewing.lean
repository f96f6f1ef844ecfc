import AstLink.Machine.Real
import AstLink.Machine.Utility.Source

namespace AstLink
namespace Machine
namespace Utility

/-!
Programs that show files, or parts of them: `cat`, `head`, `tail`, `wc`, `tac` and `rev`.
-/

/-! ## Whole files -/

/-- How `cat` shows what it reads. -/
structure Display where
  numbers : Bool
  numbersFilled : Bool
  squeezes : Bool
  ends : Bool
  tabs : Bool
  signs : Bool

/-- Whether everything is shown as it is. -/
def Display.isPlain (display : Display) : Bool :=
  !(display.numbers || display.numbersFilled || display.squeezes || display.ends ||
    display.tabs || display.signs)

/-- A character as it is shown. -/
def Display.char (display : Display) (char : Char) : Chars :=
  let code := char.toNat
  let seven (code : Nat) : Chars :=
    if code < 32 then ['^', Char.ofNat (code + 64)]
    else if code = 127 then ['^', '?']
    else [Char.ofNat code]
  if char = '\t' then if display.tabs then ['^', 'I'] else [char]
  else if char = '\n' || !display.signs then [char]
  else if code < 128 then seven code
  else "M-".toList ++ seven (code - 128)

/-- Where `cat` is: the number of the next line, whether a line is begun, and how many empty lines
came last. -/
structure Place where
  line : Nat := 1
  inLine : Bool := false
  empty : Nat := 0

def showLine (display : Display) (place : Place) (line : Chars) : Chars × Place :=
  let ended := line.getLast? = some '\n'
  let bare := if ended then line.dropLast else line
  let isEmpty := bare.isEmpty && !place.inLine
  let empty := if isEmpty then place.empty + 1 else 0
  if display.squeezes && isEmpty && 1 < empty then ([], { place with empty })
  else
    let numbered :=
      !place.inLine && (if display.numbersFilled then !isEmpty else display.numbers)
    let start :=
      if numbered then Chars.padLeft ' ' 6 (Chars.ofNat place.line) ++ ['\t'] else []
    let ending := if ended then (if display.ends then ['$', '\n'] else ['\n']) else []
    (start ++ bare.flatMap display.char ++ ending,
      { line := if numbered then place.line + 1 else place.line, inLine := !ended, empty })

def copyAll (source : Nat) : Nat -> Task (Except Obstacle Unit)
  | 0 => return .ok ()
  | bound + 1 => do
      match ← Work.read source Work.portion with
      | .error obstacle => return .error obstacle
      | .ok [] => return .ok ()
      | .ok text =>
          match ← Work.write 1 text with
          | .ok _ => copyAll source bound
          | .error obstacle =>
              Task.fail 1 ("write error: ".toList ++ obstacle.text.toList)

def showFiles (display : Display) (place : Place) : List Chars -> Task Unit
  | [] => return
  | path :: paths => do
      let complain (obstacle : Obstacle) : Task Unit := do
        complainOf path obstacle
        Task.setStatus 1
        showFiles display place paths
      match ← openSource path with
      | .error obstacle => complain obstacle
      | .ok source =>
          let goal ← Work.inspectOpen 1
          let origin ← Work.inspectOpen source.descriptor
          let isOutput : Bool :=
            match goal, origin with
            | .ok goal, .ok origin =>
                goal.sort = .file && origin.sort = .file && goal.identity = origin.identity &&
                  origin.size != 0
            | _, _ => false
          if isOutput then
            Task.complain (shownName path ++ ": input file is output file".toList)
            Task.setStatus 1
            closeSource source
            showFiles display place paths
          else if display.isPlain then
            let result ← copyAll source.descriptor Work.bound
            closeSource source
            match result with
            | .ok _ => showFiles display place paths
            | .error obstacle => complain obstacle
          else
            let result ← Work.readAll source.descriptor
            closeSource source
            match result with
            | .error obstacle => complain obstacle
            | .ok text =>
                let mut place := place
                for line in Chars.lines text do
                  let (shown, next) := showLine display place line
                  Task.say shown
                  place := next
                Task.flush
                showFiles display place paths

/-- Shows files. -/
def cat (words : List Chars) : Task Unit := do
  let flags :=
    [flag 'A' ["show-all"], flag 'b' ["number-nonblank"], flag 'e' [], flag 'E' ["show-ends"],
      flag 'n' ["number"], flag 's' ["squeeze-blank"], flag 't' [], flag 'T' ["show-tabs"],
      flag 'u' [], flag 'v' ["show-nonprinting"]]
  let arguments ← readArguments { flags } words
  let display : Display :=
    { numbers := arguments.has 'n'
      numbersFilled := arguments.has 'b'
      squeezes := arguments.has 's'
      ends := arguments.has 'A' || arguments.has 'e' || arguments.has 'E'
      tabs := arguments.has 'A' || arguments.has 't' || arguments.has 'T'
      signs :=
        arguments.has 'A' || arguments.has 'e' || arguments.has 't' || arguments.has 'v' }
  showFiles display {} (orInput arguments.operands)

/-! ## Beginnings and ends -/

/-- What a letter behind a number multiplies it by. -/
def multiplier? (suffix : Chars) : Option Nat :=
  match suffix with
  | [] => some 1
  | ['b'] => some 512
  | ['k', 'B'] | ['K', 'B'] => some 1000
  | ['k'] | ['K'] | ['K', 'i', 'B'] => some 1024
  | ['m'] | ['M'] | ['M', 'i', 'B'] => some (Nat.pow 1024 2)
  | ['M', 'B'] => some (Nat.pow 1000 2)
  | ['G'] | ['G', 'i', 'B'] => some (Nat.pow 1024 3)
  | ['G', 'B'] => some (Nat.pow 1000 3)
  | ['T'] => some (Nat.pow 1024 4)
  | _ => none

def count? (text : Chars) : Option Nat := do
  let text := text.dropWhile Chars.isSpace
  let digits := text.takeWhile Char.isDigit
  if digits.isEmpty then none
  let factor ← multiplier? (text.drop digits.length)
  return Chars.digitsValue digits * factor

def largestCount : Nat := Nat.pow 2 64 - 1

/-- How much of a file is meant. -/
structure Extent where
  inBytes : Bool := false
  /-- Whether it is counted from the other side. -/
  fromOther : Bool := false
  count : Nat := 10

def extent? (inBytes : Bool) (sign : Char) (text : Chars) : Option Extent :=
  let (marked, digits) :=
    match text with
    | first :: rest =>
        if first = sign then (true, rest)
        else if first = '-' || first = '+' then (false, rest)
        else (false, text)
    | [] => (false, [])
  (count? digits).map (fun count => { inBytes, fromOther := marked, count })

def refuseCount {α : Type} (inBytes : Bool) (text : Chars) (why : String) : Task α :=
  let what := if inBytes then "bytes" else "lines"
  Task.fail 1 (("invalid number of " ++ what ++ ": ").toList ++ quoted text ++ why.toList)

/-- The options of `head` and `tail`; in each extent a sign means counting from the other side. -/
def partTaking (sign : Char) : Taking where
  flags :=
    [given 'c' ["bytes"], given 'n' ["lines"], flag 'q' ["quiet", "silent"], flag 'v' ["verbose"],
      flag 'z' ["zero-terminated"]] ++
      (if sign = '-' then []
       else
        [{ letter := 'f', names := ["follow"], giving := .nothing }, flag 'F' [],
          flag '\x01' ["retry"], given 's' ["sleep-interval"], given '\x02' ["pid"]])
  check := fun _ letter value =>
    let text := value.getD []
    if letter = 'c' || letter = 'n' then
      let digits := if sign = '-' && text.head? = some '-' then text.drop 1 else text
      match extent? (letter = 'c') sign text with
      | some extent =>
          if largestCount < extent.count then
            refuseCount (letter = 'c') digits ": Value too large for defined data type"
          else return
      | none => refuseCount (letter = 'c') digits ""
    else if letter = 's' && !(Real.scan Real.double text).found then
      Task.fail 1 ("invalid number of seconds: ".toList ++ quoted text)
    else return

/-- Whether `tail` takes a number with a sign in front for an option: only one file may be named. -/
def isOldCall (words : List Chars) : Bool :=
  match words with
  | [_] => true
  | [_, '-' :: _ :: _] => false
  | [_, _] | [_, ['-', '-'], _] => true
  | _ => false

/-- Words in which a number with a sign in front stands for an option with that number. -/
def modern (sign : Char) (words : List Chars) : Task (List Chars) := do
  match words with
  | (mark :: digit :: rest) :: others =>
      if mark = sign && digit.isDigit then
        let digits := (digit :: rest).takeWhile Char.isDigit
        let letters := (digit :: rest).drop digits.length
        let unit := letters.find? (fun letter => ['c', 'b', 'k', 'm'].contains letter)
        let factor := letters.filter (fun letter => ['b', 'k', 'm'].contains letter)
        let bad := letters.find? (fun letter => !"cbkmlqvf".toList.contains letter)
        match bad with
        | some letter => Task.misuse 1 ("invalid trailing option -- ".toList ++ [letter])
        | none =>
            let number := (if sign = '+' then ['+'] else []) ++ digits ++ factor
            let option := if unit.isSome then 'c' else 'n'
            let loud := letters.filter (fun letter => letter = 'q' || letter = 'v')
            return loud.map (fun letter => ['-', letter]) ++ ['-' :: option :: number] ++ others
      else return words
  | words => return words

/-- Writes the name of a file above a part of it. -/
def heading (first : Bool) (name : Chars) : Task Unit :=
  Task.say ((if first then [] else ['\n']) ++ "==> ".toList ++ name ++ " <==\n".toList)

/-- How much `head` reads at once. -/
def headPortion : Nat := 8192

/-- Writes the first so many lines, or bytes, of what a descriptor has to give. -/
def copyStart (source : Source) (ending : Char) (inBytes : Bool) (left : Nat) :
    Nat -> Task (Except Obstacle Unit)
  | 0 => return .ok ()
  | bound + 1 => do
      if left = 0 then return .ok ()
      match ← Work.read source.descriptor (if inBytes then min headPortion left else headPortion) with
      | .error obstacle => return .error obstacle
      | .ok [] => return .ok ()
      | .ok text =>
          if inBytes then
            Task.say text
            copyStart source ending inBytes (left - text.length) bound
          else
            let lines := Chars.linesBy ending text
            let taken := (lines.take left).flatten
            Task.say taken
            let ends := (taken.filter (fun char => char = ending)).length
            if taken.length < text.length then
              let back := Int.ofNat taken.length - Int.ofNat text.length
              let _ ← Work.request (.seek source.descriptor back .here)
            copyStart source ending inBytes (left - ends) bound

def withoutEnd (ending : Char) (inBytes : Bool) (count : Nat) (text : Chars) : Chars :=
  if inBytes then text.take (text.length - count)
  else
    let lines := Chars.linesBy ending text
    (lines.take (lines.length - count)).flatten

/-- The part of a text that `tail` writes. -/
def lastPart (extent : Extent) (ending : Char) (text : Chars) : Chars :=
  match extent.inBytes, extent.fromOther with
  | true, true => text.drop (extent.count - 1)
  | true, false => text.drop (text.length - extent.count)
  | false, true => ((Chars.linesBy ending text).drop (extent.count - 1)).flatten
  | false, false =>
      let lines := Chars.linesBy ending text
      (lines.drop (lines.length - extent.count)).flatten

def showParts (write : Source -> Task (Except Obstacle Unit)) (headings first : Bool) :
    List Chars -> Task Unit
  | [] => return
  | path :: paths => do
      match ← openSource path with
      | .error obstacle =>
          Task.complain
            ("cannot open ".toList ++ marked path ++ " for reading: ".toList ++
              obstacle.text.toList)
          Task.setStatus 1
          showParts write headings first paths
      | .ok source =>
          if headings then heading first source.name
          match ← write source with
          | .ok _ => pure ()
          | .error obstacle =>
              Task.complain
                ("error reading ".toList ++ marked source.name ++ ": ".toList ++
                  obstacle.text.toList)
              Task.setStatus 1
          closeSource source
          showParts write headings false paths

def extentOf (sign : Char) (arguments : Arguments) : Extent :=
  match arguments.last? "cn" with
  | some letter =>
      ((arguments.value? letter).bind (extent? (letter = 'c') sign)).getD {}
  | none => {}

def lineEnding (arguments : Arguments) : Char := if arguments.has 'z' then '\x00' else '\n'

def hasHeadings (arguments : Arguments) (count : Nat) : Bool :=
  match arguments.last? "qv" with
  | some 'v' => true
  | some _ => false
  | none => 1 < count

/-- Writes the beginnings of files. -/
def head (words : List Chars) : Task Unit := do
  let arguments ← readArguments (partTaking '-') (← modern '-' words)
  let extent := extentOf '-' arguments
  let paths := orInput arguments.operands
  let write (source : Source) : Task (Except Obstacle Unit) := do
    if extent.fromOther then
      match ← Work.readAll source.descriptor with
      | .error obstacle => return .error obstacle
      | .ok text =>
          Task.say (withoutEnd (lineEnding arguments) extent.inBytes extent.count text)
          return .ok ()
    else copyStart source (lineEnding arguments) extent.inBytes extent.count Work.bound
  showParts write (hasHeadings arguments paths.length) true paths

/-- Writes the ends of files. -/
def tail (words : List Chars) : Task Unit := do
  let words ← if isOldCall words then do modern '+' (← modern '-' words) else pure words
  match words with
  | ('-' :: digit :: _) :: _ =>
      if digit.isDigit then
        Task.fail 1 ("option used in invalid context -- ".toList ++ [digit])
  | _ => pure ()
  let arguments ← readArguments (partTaking '+') words
  let extent := extentOf '+' arguments
  let paths := orInput arguments.operands
  let write (source : Source) : Task (Except Obstacle Unit) := do
    match ← Work.readAll source.descriptor with
    | .error obstacle => return .error obstacle
    | .ok text =>
        Task.say (lastPart extent (lineEnding arguments) text)
        return .ok ()
  showParts write (hasHeadings arguments paths.length) true paths

/-! ## Counting -/

structure Counts where
  lines : Nat := 0
  words : Nat := 0
  bytes : Nat := 0
  longest : Nat := 0

def Counts.add (a b : Counts) : Counts :=
  { lines := a.lines + b.lines
    words := a.words + b.words
    bytes := a.bytes + b.bytes
    longest := max a.longest b.longest }

/-- How many words there are in a text; `inWord` says that one goes on from before. -/
def wordsIn : Bool -> Chars -> Nat
  | _, [] => 0
  | inWord, char :: rest =>
      if Chars.isSpace char then wordsIn false rest
      else (if inWord then 0 else 1) + wordsIn true rest

def columns (line : Chars) : Nat :=
  line.foldl
    (fun column char =>
      if char = '\t' then (column / 8 + 1) * 8 else if isShown char then column + 1 else column)
    0

def countsOf (text : Chars) : Counts :=
  { lines := (text.filter (fun char => char = '\n')).length
    words := wordsIn false text
    bytes := text.length
    longest := (Chars.bareLines text).foldl (fun longest line => max longest (columns line)) 0 }

def countWidth (columns : Nat) (infos : List (Option Info)) : Nat :=
  if infos.length = 1 && columns = 1 then 1
  else
    let known := infos.filterMap id
    let least := if known.any (fun info => info.sort != .file) then 7 else 1
    let total := known.foldl
      (fun total info => if info.sort = .file then total + info.size else total) 0
    max least (toString total).length

def wordCount (words : List Chars) : Task Unit := do
  let flags :=
    [flag 'c' ["bytes"], flag 'm' ["chars"], flag 'l' ["lines"], flag 'w' ["words"],
      flag 'L' ["max-line-length"], given '\x01' ["total"]]
  let arguments ← readArguments { flags } words
  let totals := ["auto", "always", "only", "never"]
  let total ←
    match arguments.value? '\x01' with
    | none => pure 0
    | some word => choose 1 "--total".toList (totals.map (fun name => [name])) word
  let plain := (arguments.options.filter (fun option => option.1 != '\x01')).isEmpty
  let has (letter : Char) : Bool := arguments.has letter
  let chosen (counts : Counts) : List Nat :=
    (if plain || has 'l' then [counts.lines] else []) ++
      (if plain || has 'w' then [counts.words] else []) ++
      (if has 'm' then [counts.bytes] else []) ++
      (if plain || has 'c' then [counts.bytes] else []) ++
      (if has 'L' then [counts.longest] else [])
  let paths := orInput arguments.operands
  let infos ← paths.mapM (fun path => do
    let info ← if path = ['-'] then Work.inspectOpen 0 else Work.inspect path true
    return info.toOption)
  let width := countWidth (chosen {}).length infos
  let row (counts : Counts) (name : Chars) : Task Unit := do
    let numbers := (chosen counts).map (fun count => Chars.padLeft ' ' width (Chars.ofNat count))
    let name := if name.isEmpty then [] else ' ' :: name
    Task.line (Chars.join [' '] numbers ++ name)
    Task.flush
  let mut sum : Counts := {}
  for path in paths do
    let shown := if arguments.operands.isEmpty then [] else path
    match ← openSource path with
    | .error obstacle =>
        complainOf path obstacle
        Task.setStatus 1
    | .ok source =>
        match ← Work.readAll source.descriptor with
        | .error obstacle =>
            complainOf path obstacle
            Task.setStatus 1
            if total != 2 then row {} shown
        | .ok text =>
            let counts := countsOf text
            sum := sum.add counts
            if total != 2 then row counts shown
        closeSource source
  if total = 2 then row sum []
  else if total = 1 || (total = 0 && 1 < paths.length) then row sum "total".toList

/-! ## Other orders -/

/-- The pieces of a text, each with the separator at its beginning or at its end, the last piece
first. `done` are the pieces before, and `piece` is the one that is being read, latest character
first. -/
def reversePieces (separator : Chars) (leading : Bool) (done : List Chars) (piece : Chars) :
    Nat -> Chars -> List Chars
  | _, [] => if piece.isEmpty then done else piece.reverse :: done
  | skipped + 1, char :: rest =>
      if skipped = 0 && !leading then
        reversePieces separator leading ((char :: piece).reverse :: done) [] 0 rest
      else reversePieces separator leading done (char :: piece) skipped rest
  | 0, char :: rest =>
      if separator.isPrefixOf (char :: rest) then
        if leading then
          let done := if piece.isEmpty then done else piece.reverse :: done
          reversePieces separator leading done [char] (separator.length - 1) rest
        else if separator.length = 1 then
          reversePieces separator leading ((char :: piece).reverse :: done) [] 0 rest
        else reversePieces separator leading done (char :: piece) (separator.length - 1) rest
      else reversePieces separator leading done (char :: piece) 0 rest

def reverseLines (words : List Chars) : Task Unit := do
  let flags := [flag 'b' ["before"], given 's' ["separator"], flag 'r' ["regex"]]
  let arguments ← readArguments { flags } words
  let separator :=
    match arguments.value? 's' with
    | none => ['\n']
    | some [] => ['\x00']
    | some text => text
  for path in orInput arguments.operands do
    match ← openSource path with
    | .error obstacle =>
        Task.complainFirst
          ("failed to open ".toList ++ marked path ++ " for reading: ".toList ++
            obstacle.text.toList)
        Task.setStatus 1
    | .ok source =>
        match ← Work.readAll source.descriptor with
        | .error _ =>
            Task.complainFirst
              (shownName path ++ ": read error: ".toList ++ Obstacle.invalid.text.toList)
            Task.setStatus 1
        | .ok text =>
            Task.say (reversePieces separator (arguments.has 'b') [] [] 0 text).flatten
        closeSource source

/-- Writes every line of files backwards. -/
def reverseChars (words : List Chars) : Task Unit := do
  let help := "Try \x27rev --help\x27 for more information.\n".toList
  modify (fun console => { console with usage := some help })
  let arguments ← readArguments { flags := [] } words
  modify (fun console => { console with name := "rev".toList })
  for path in orInput arguments.operands do
    match ← readPath path with
    | .error obstacle =>
        Task.complainFirst
          ("cannot open ".toList ++ path ++ ": ".toList ++ obstacle.text.toList)
        Task.setStatus 1
    | .ok text =>
        for line in Chars.lines text do
          let ended := line.getLast? = some '\n'
          let bare := if ended then line.dropLast else line
          Task.say (bare.reverse ++ (if ended then ['\n'] else []))

end Utility
end Machine
end AstLink
