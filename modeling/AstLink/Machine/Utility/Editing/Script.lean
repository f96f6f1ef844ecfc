import AstLink.Machine.Regex.Reader
import AstLink.Machine.Regex.Match

namespace AstLink
namespace Machine
namespace Utility
namespace Editing

/-!
Scripts of `sed`: commands, each of which may be limited to certain lines.

A script is a row of commands.  A group of commands is opened and closed by commands of its own, so
that a jump is only ever a place in the row.
-/

/-- A pattern of a script.  Without one the last that was used is meant. -/
structure Matcher where
  pattern : Option Regex.Pattern
  groups : Nat := 0
  manner : Regex.Manner := {}

/-- A line that a command is limited to. -/
inductive Address where
  | line (number : Nat)
  /-- Every so many lines from one on. -/
  | step (first width : Nat)
  | last
  | pattern (matcher : Matcher)
  /-- So many lines further on. -/
  | plus (count : Nat)
  /-- The next line whose number is a multiple. -/
  | multiple (factor : Nat)

structure Limits where
  first : Option Address := none
  last : Option Address := none
  negated : Bool := false

inductive Casing where
  | upper
  | lower
  | nextUpper
  | nextLower
  | off
  deriving DecidableEq, Repr

inductive Piece where
  | text (text : Chars)
  | group (number : Nat)
  | casing (casing : Casing)

/-- A replacement of matches. -/
structure Substitution where
  matcher : Matcher
  pieces : List Piece
  all : Bool := false
  /-- The first match that is replaced. -/
  number : Nat := 1
  prints : Bool := false
  file : Option Chars := none

/-- When a jump is made. -/
inductive Condition where
  | always
  | replaced
  | notReplaced
  deriving DecidableEq, Repr

/-- What a command does. -/
inductive Action where
  /-- Opens a group, which ends at a place. -/
  | group (past : Nat)
  | nothing
  | append (text : Chars)
  | insert (text : Chars)
  | change (text : Chars)
  | jump (condition : Condition) (label : Chars)
  | delete
  | deleteLine
  | showNumber
  | showName
  | showPlainly (width : Option Nat)
  | take
  | takeMore
  | hold
  | holdMore
  | exchange
  | next
  | nextMore
  | print
  | printLine
  | quit (status : Nat)
  | quitSilently (status : Nat)
  | readFile (path : Chars)
  | readLine (path : Chars)
  | substitute (substitution : Substitution)
  | transliterate (pairs : List (Char × Char))
  | write (path : Chars)
  | writeLine (path : Chars)
  | clear

structure Command where
  limits : Limits
  action : Action

/-- Why a script cannot be read. -/
inductive Failure where
  | unknown (char : Char)
  | noCommand
  | extra
  | comma
  | lineZero
  | stepFirst
  | bangs
  | openAddress
  | openSubstitution
  | openTransliteration
  | lengths
  | noText
  | noFile
  | openGroup
  | closedGroup
  | commentAddress
  | labelAddress
  | noLabel
  | oneAddress
  | manyAll
  | manyPrint
  | manyNumbers
  | numberZero
  | unknownOption
  | newerVersion
  | reference (number : Nat)
  | noPattern
  | regex (failure : Regex.Failure)
  | missingLabel (label : Chars)

def Failure.message : Failure -> Chars
  | .unknown char => "unknown command: \x60".toList ++ [char, '\x27']
  | .noCommand => "missing command".toList
  | .extra => "extra characters after command".toList
  | .comma => "unexpected \x60,\x27".toList
  | .lineZero => "invalid usage of line address 0".toList
  | .stepFirst => "invalid usage of +N or ~N as first address".toList
  | .bangs => "multiple \x60!\x27s".toList
  | .openAddress => "unterminated address regex".toList
  | .openSubstitution => "unterminated \x60s\x27 command".toList
  | .openTransliteration => "unterminated \x60y\x27 command".toList
  | .lengths => "strings for \x60y\x27 command are different lengths".toList
  | .noText => "expected \\ after \x60a\x27, \x60c\x27 or \x60i\x27".toList
  | .noFile => "missing filename in r/R/w/W commands".toList
  | .openGroup => "unmatched \x60\x7b\x27".toList
  | .closedGroup => "unexpected \x60\x7d\x27".toList
  | .commentAddress => "comments don\x27t accept any addresses".toList
  | .labelAddress => ": doesn\x27t want any addresses".toList
  | .noLabel => "\":\" lacks a label".toList
  | .oneAddress => "command only uses one address".toList
  | .manyAll => "multiple \x60g\x27 options to \x60s\x27 command".toList
  | .manyPrint => "multiple \x60p\x27 options to \x60s\x27 command".toList
  | .manyNumbers => "multiple number options to \x60s\x27 command".toList
  | .numberZero => "number option to \x60s\x27 command may not be zero".toList
  | .unknownOption => "unknown option to \x60s\x27".toList
  | .newerVersion => "expected newer version of sed".toList
  | .reference number =>
      "invalid reference \\".toList ++ Chars.ofNat number ++ " on \x60s\x27 command\x27s RHS".toList
  | .noPattern => "no previous regular expression".toList
  | .regex failure => failure.message.toList
  | .missingLabel label =>
      "can\x27t find label for jump to \x60".toList ++ label ++ ['\x27']

/-! ## Reading -/

/-- The state of reading: what is left of a piece of the script, how much of it was read, and what
was found so far, latest first. -/
structure Reading where
  rest : Chars
  count : Nat := 0
  commands : Array Command := #[]
  /-- The groups that are open, the innermost first. -/
  groups : List Nat := []
  labels : List (Chars × Nat) := []
  /-- Whether the script asks that nothing be printed of itself. -/
  quiet : Bool := false
  /-- Whether the first piece of the script is being read. -/
  first : Bool := true
  /-- Whether the last command still waits for its text. -/
  waits : Bool := false
  extended : Bool := false

/-- The reading of a script.  With a failure comes how much was read. -/
abbrev Read := StateT Reading (Except (Failure × Nat))

/-- Gives up. -/
def refuse {α : Type} (failure : Failure) : Read α := do throw (failure, (← get).count)

def next? : Read (Option Char) := do
  let reading ← get
  match reading.rest with
  | [] => return none
  | char :: rest =>
      set { reading with rest, count := reading.count + 1 }
      return some char

/-- The next character, which is left where it is. -/
def peek? : Read (Option Char) := return (← get).rest.head?

/-- Takes the longest beginning whose characters are in a class. -/
def takeWhile (inClass : Char -> Bool) : Read Chars := do
  let reading ← get
  let text := reading.rest.takeWhile inClass
  set { reading with
    rest := reading.rest.drop text.length
    count := reading.count + text.length }
  return text

/-- Whether a character is a blank within a line. -/
def isBlank (char : Char) : Bool := Chars.isSpace char && char != '\n'

def skipBlanks : Read Unit := do
  let _ ← takeWhile isBlank

def number : Read Nat := return Chars.digitsValue (← takeWhile Char.isDigit)

/-! ## Texts -/

/-- The character that an escape stands for, and how many characters it takes. -/
def escape? (text : Chars) : Option (Char × Nat) :=
  let code (isDigit : Char -> Bool) (base most : Nat) (digits : Chars) : Option (Char × Nat) :=
    let digits := (digits.takeWhile isDigit).take most
    let value (digit : Char) : Nat :=
      if digit.isDigit then digit.toNat - '0'.toNat else digit.toLower.toNat - 'a'.toNat + 10
    if digits.isEmpty then none
    else
      let number := digits.foldl (fun number digit => number * base + value digit) 0
      some (Char.ofNat (number % 256), digits.length + 1)
  match text with
  | 'a' :: _ => some ('\x07', 1)
  | 'f' :: _ => some ('\x0c', 1)
  | 'r' :: _ => some ('\r', 1)
  | 't' :: _ => some ('\t', 1)
  | 'v' :: _ => some ('\x0b', 1)
  | 'c' :: char :: _ => some (Char.ofNat (char.toUpper.toNat ^^^ 64), 2)
  | 'd' :: digits => code Char.isDigit 10 3 digits
  | 'o' :: digits => code (fun char => '0' ≤ char && char ≤ '7') 8 3 digits
  | 'x' :: digits =>
      code (fun char => char.isDigit || ('a' ≤ char.toLower && char.toLower ≤ 'f')) 16 2 digits
  | _ => none

/-- The text of a pattern with the escapes resolved that stand for characters.  `skipped` characters
belong to the escape before. -/
def patternText : Nat -> Chars -> Chars
  | _, [] => []
  | skipped + 1, _ :: rest => patternText skipped rest
  | 0, char :: rest =>
      if char != '\\' then char :: patternText 0 rest
      else
        match escape? rest, rest with
        | some (result, count), _ => result :: patternText count rest
        | none, next :: _ => '\\' :: next :: patternText 1 rest
        | none, [] => ['\\']

/-- A text with all escapes resolved: a backslash before any other character is left out. -/
def plainText : Nat -> Chars -> Chars
  | _, [] => []
  | skipped + 1, _ :: rest => plainText skipped rest
  | 0, char :: rest =>
      if char != '\\' then char :: plainText 0 rest
      else
        match escape? rest, rest with
        | some (result, count), _ => result :: plainText count rest
        | none, 'n' :: _ => '\n' :: plainText 1 rest
        | none, next :: _ => next :: plainText 1 rest
        | none, [] => []

/-- Where a place in a pattern lies, seen from the brackets of the pattern. -/
inductive Enclosure where
  | outside
  /-- Right behind the opening bracket, where a caret and a closing bracket are nothing special. -/
  | opened (caret : Bool)
  | inside
  /-- Behind an opening bracket within the brackets, which may begin a name. -/
  | nested
  /-- In a name, which ends with a mark and a closing bracket. -/
  | named (mark : Char)
  | closing (mark : Char)
  deriving DecidableEq, Repr

/-- Where the place behind a character lies. -/
def Enclosure.next (char : Char) : Enclosure -> Enclosure
  | .outside => if char = '[' then .opened true else .outside
  | .opened caret =>
      if char = '^' && caret then .opened false
      else if char = '[' then .nested
      else .inside
  | .inside => if char = ']' then .outside else if char = '[' then .nested else .inside
  | .nested =>
      if [':', '.', '='].contains char then .named char
      else if char = ']' then .outside
      else if char = '[' then .nested
      else .inside
  | .named mark => if char = mark then .closing mark else .named mark
  | .closing mark =>
      if char = ']' then .inside else if char = mark then .closing mark else .named mark

/-- The part of a text up to a separator, in which a backslash takes away the meaning of the
separator. In a pattern `\n` is the end of a line, and a separator between brackets is nothing
special.  The result is the part and how much was read of the text; the part is missing if the
separator is. -/
def delimited (separator : Char) (isPattern : Bool) :
    Nat -> Enclosure -> Chars -> Nat -> Chars -> Option Chars × Nat
  | _, _, _, count, [] => (none, count)
  | 0, _, _, count, _ => (none, count)
  | bound + 1, enclosure, done, count, char :: rest =>
      let isEnclosed := enclosure != .outside
      let following := if isPattern then enclosure.next char else enclosure
      if char = '\n' then (none, count)
      else if char = separator && !isEnclosed then (some done.reverse, count + 1)
      else if char != '\\' then
        delimited separator isPattern bound following (char :: done) (count + 1) rest
      else
        match rest with
        | [] => (none, count + 1)
        | next :: others =>
            if isEnclosed && next != 'n' && next != '\\' then
              delimited separator isPattern bound following (char :: done) (count + 1) rest
            else
              let piece : Chars :=
                if next = 'n' && isPattern then ['\n']
                else if next = '\n' then if isPattern then ['\n'] else ['\n', '\\']
                else if next = separator && (isPattern || next != '&') then [next]
                else [next, '\\']
              delimited separator isPattern bound following (piece ++ done) (count + 2) others

def readDelimited (separator : Char) (isPattern : Bool) (failure : Failure) : Read Chars := do
  let reading ← get
  let (part, count) := delimited separator isPattern (reading.rest.length + 1) .outside [] 0
    reading.rest
  set { reading with rest := reading.rest.drop count, count := reading.count + count }
  match part with
  | some part => return part
  | none => refuse failure

def compile (text : Chars) (manner : Regex.Manner) : Read Matcher := do
  if text.isEmpty then return { pattern := none, manner }
  match Regex.read (.edit (← get).extended) (patternText 0 text) with
  | .ok compiled => return { pattern := some compiled.pattern, groups := compiled.groups, manner }
  | .error failure => refuse (.regex failure)

def addText (pieces : List Piece) (text : Chars) : List Piece :=
  match pieces with
  | .text before :: pieces => .text (before ++ text) :: pieces
  | pieces => .text text :: pieces

def replacementPieces (done : List Piece) : Nat -> Chars -> List Piece
  | _, [] => done
  | skipped + 1, _ :: rest => replacementPieces done skipped rest
  | 0, '&' :: rest => replacementPieces (.group 0 :: done) 0 rest
  | 0, char :: rest =>
      if char != '\\' then replacementPieces (addText done [char]) 0 rest
      else
        let casing? (letter : Char) : Option Casing :=
          match letter with
          | 'U' => some .upper
          | 'L' => some .lower
          | 'u' => some .nextUpper
          | 'l' => some .nextLower
          | 'E' => some .off
          | _ => none
        match escape? rest, rest with
        | some (result, count), _ => replacementPieces (addText done [result]) count rest
        | none, letter :: _ =>
            match casing? letter with
            | some casing => replacementPieces (.casing casing :: done) 1 rest
            | none =>
                if letter.isDigit then
                  replacementPieces (.group (letter.toNat - '0'.toNat) :: done) 1 rest
                else
                  replacementPieces (addText done [if letter = 'n' then '\n' else letter]) 1 rest
        | none, [] => done

/-! ## Commands -/

def addressOptions (manner : Regex.Manner) : Nat -> Read Regex.Manner
  | 0 => return manner
  | bound + 1 => do
      skipBlanks
      match ← peek? with
      | some 'I' => do
          let _ ← next?
          addressOptions { manner with folded := true } bound
      | some 'M' => do
          let _ ← next?
          addressOptions { manner with lined := true } bound
      | _ => return manner

def address? : Read (Option Address) := do
  match ← peek? with
  | none => return none
  | some char =>
      if char.isDigit then
        let first ← number
        skipBlanks
        if (← peek?) = some '~' then
          let _ ← next?
          skipBlanks
          let width ← number
          return some (if width = 0 then .line first else .step first width)
        else return some (.line first)
      else if char = '/' || char = '\\' then
        let _ ← next?
        let separator ← if char = '/' then pure char else pure ((← next?).getD '\n')
        let text ← readDelimited separator true .openAddress
        let manner ← addressOptions {} (← get).rest.length
        return some (.pattern (← compile text manner))
      else if char = '$' then
        let _ ← next?
        return some .last
      else if char = '+' || char = '~' then
        let _ ← next?
        skipBlanks
        let count ← number
        return some (if char = '+' then .plus count else .multiple count)
      else return none

def readLimits : Read Limits := do
  let first ← address?
  match first with
  | some (.plus _) | some (.multiple _) => refuse .stepFirst
  | _ => pure ()
  skipBlanks
  let last ←
    if first.isSome && (← peek?) = some ',' then do
      let _ ← next?
      skipBlanks
      match ← address? with
      | some address => do
          skipBlanks
          pure (some address)
      | none => do
          let _ ← next?
          refuse .comma
    else pure none
  match first, last with
  | some (.line 0), some (.pattern _) => pure ()
  | some (.line 0), _ => do
      let _ ← next?
      refuse .lineZero
  | _, _ => pure ()
  if (← peek?) = some '!' then
    let _ ← next?
    skipBlanks
    if (← peek?) = some '!' then
      let _ ← next?
      refuse .bangs
    return { first, last, negated := true }
  else return { first, last }

def readEnd : Read Unit := do
  skipBlanks
  match ← peek? with
  | none | some '\x7d' | some '#' => return
  | some char => do
      let _ ← next?
      if char != '\n' && char != ';' then refuse .extra

def readLabel : Read Chars := do
  skipBlanks
  takeWhile (fun char => !Chars.isSpace char && char != ';' && char != '\x7d')

def readName : Read Chars := do
  skipBlanks
  let name ← takeWhile (fun char => char != '\n')
  if name.isEmpty then refuse .noFile
  let _ ← next?
  return name

/-- The lines of a text up to the first end of a line that has no backslash before it, and how much
was read. -/
def textLines : Nat -> Chars -> Nat -> Chars -> Chars × Nat
  | _, done, count, [] => (done.reverse, count)
  | 0, done, count, _ => (done.reverse, count)
  | _ + 1, done, count, '\n' :: _ => (done.reverse, count + 1)
  | _ + 1, done, count, '\\' :: [] => (done.reverse, count + 1)
  | bound + 1, done, count, '\\' :: char :: rest =>
      textLines bound (char :: '\\' :: done) (count + 2) rest
  | bound + 1, done, count, char :: rest => textLines bound (char :: done) (count + 1) rest

/-- Reads the text of a command.  At the end of a piece of the script it is in the next piece. -/
def readText : Read Chars := do
  let reading ← get
  let (text, count) := textLines (reading.rest.length + 1) [] 0 reading.rest
  set { reading with rest := reading.rest.drop count, count := reading.count + count }
  return plainText 0 text ++ ['\n']

def readTextCommand (make : Chars -> Action) : Read Action := do
  skipBlanks
  match ← peek? with
  | none => refuse .noText
  | some '\\' => do
      let _ ← next?
      match ← peek? with
      | none => do
          modify (fun reading => { reading with waits := true })
          return make []
      | some '\n' => do
          let _ ← next?
          if (← peek?).isNone then
            modify (fun reading => { reading with waits := true })
            return make []
          else return make (← readText)
      | some _ => return make (← readText)
  | some '\n' => do
      let _ ← next?
      refuse .noText
  | some _ => return make (← readText)

structure Options where
  all : Bool := false
  prints : Bool := false
  number : Option Nat := none
  manner : Regex.Manner := {}
  file : Option Chars := none

def readOptions (options : Options) : Nat -> Read Options
  | 0 => return options
  | bound + 1 => do
      match ← peek? with
      | none | some '\x7d' | some '#' => return options
      | some char => do
          if char.isDigit then
            let value ← number
            if options.number.isSome then refuse .manyNumbers
            if value = 0 then refuse .numberZero
            readOptions { options with number := some value } bound
          else
            let _ ← next?
            match char with
            | '\n' | ';' => return options
            | 'i' | 'I' =>
                readOptions { options with manner := { options.manner with folded := true } } bound
            | 'm' | 'M' =>
                readOptions { options with manner := { options.manner with lined := true } } bound
            | 'p' => do
                if options.prints then refuse .manyPrint
                readOptions { options with prints := true } bound
            | 'g' => do
                if options.all then refuse .manyAll
                readOptions { options with all := true } bound
            | 'w' => return { options with file := some (← readName) }
            | char =>
                if isBlank char then readOptions options bound else refuse .unknownOption

def readSubstitution : Read Action := do
  let separator := (← next?).getD '\n'
  let pattern ← readDelimited separator true .openSubstitution
  let replacement ← readDelimited separator false .openSubstitution
  let options ← readOptions {} (← get).rest.length
  let matcher ← compile pattern options.manner
  let pieces := (replacementPieces [] 0 replacement).reverse
  let highest := pieces.foldl
    (fun highest piece =>
      match piece with
      | .group number => max highest number
      | _ => highest)
    0
  if matcher.pattern.isSome && matcher.groups < highest then refuse (.reference highest)
  return .substitute
    { matcher, pieces, all := options.all, number := options.number.getD 1
      prints := options.prints, file := options.file }

def readTransliteration : Read Action := do
  let separator := (← next?).getD '\n'
  let source ← readDelimited separator false .openTransliteration
  let target ← readDelimited separator false .openTransliteration
  let source := plainText 0 source
  let target := plainText 0 target
  if source.length != target.length then refuse .lengths
  readEnd
  return .transliterate (source.zip target)

/-- Reads a command that takes nothing more. -/
def readBare (action : Action) : Read Action := do
  readEnd
  return action

/-- Reads a command that may take a number. -/
def readCounted (make : Option Nat -> Action) : Read Action := do
  skipBlanks
  let digits ← takeWhile Char.isDigit
  readEnd
  return make (if digits.isEmpty then none else some (Chars.digitsValue digits))

def readAction (limits : Limits) (letter : Char) : Read Action := do
  match letter with
  | 'a' => readTextCommand .append
  | 'i' => readTextCommand .insert
  | 'c' => readTextCommand .change
  | 'b' => return .jump .always (← readLabel)
  | 't' => return .jump .replaced (← readLabel)
  | 'T' => return .jump .notReplaced (← readLabel)
  | 'd' => readBare .delete
  | 'D' => readBare .deleteLine
  | '=' => readBare .showNumber
  | 'F' => readBare .showName
  | 'g' => readBare .take
  | 'G' => readBare .takeMore
  | 'h' => readBare .hold
  | 'H' => readBare .holdMore
  | 'x' => readBare .exchange
  | 'n' => readBare .next
  | 'N' => readBare .nextMore
  | 'p' => readBare .print
  | 'P' => readBare .printLine
  | 'z' => readBare .clear
  | 'l' => readCounted .showPlainly
  | 'q' | 'Q' => do
      if limits.last.isSome then refuse .oneAddress
      let make (status : Option Nat) : Action :=
        if letter = 'q' then .quit (status.getD 0) else .quitSilently (status.getD 0)
      readCounted make
  | 'r' => return .readFile (← readName)
  | 'R' => return .readLine (← readName)
  | 'w' => return .write (← readName)
  | 'W' => return .writeLine (← readName)
  | 's' => readSubstitution
  | 'y' => readTransliteration
  | 'v' => do
      let version ← readLabel
      readEnd
      let numbers := (Chars.splitOn '.' version).map Chars.digitsValue
      if [4, 9] < numbers then refuse .newerVersion else return .nothing
  | char => refuse (.unknown char)

def addCommand (limits : Limits) (action : Action) : Read Unit :=
  modify (fun reading => { reading with commands := reading.commands.push ⟨limits, action⟩ })

def readCommand : Read Unit := do
  let limits ← readLimits
  match ← next? with
  | none => refuse .noCommand
  | some '#' =>
      if limits.first.isSome then refuse .commentAddress
      let start := (← get).count
      let text ← takeWhile (fun char => char != '\n')
      if text = ['n'] && start = 1 && (← get).first then
        modify (fun reading => { reading with quiet := true })
  | some ':' =>
      if limits.first.isSome then refuse .labelAddress
      let label ← readLabel
      if label.isEmpty then refuse .noLabel
      modify (fun reading =>
        { reading with labels := (label, reading.commands.size) :: reading.labels })
      addCommand {} .nothing
  | some '\x7b' =>
      modify (fun reading => { reading with groups := reading.commands.size :: reading.groups })
      addCommand limits (.group 0)
  | some '\x7d' =>
      match (← get).groups with
      | [] => refuse .closedGroup
      | start :: groups =>
          if limits.first.isSome then refuse .closedGroup
          readEnd
          modify (fun reading =>
            let past := reading.commands.size
            { reading with
              groups
              commands := reading.commands.modify start (fun command =>
                { command with action := .group past }) })
  | some letter => addCommand limits (← readAction limits letter)

def readCommands : Nat -> Read Unit
  | 0 => return
  | bound + 1 => do
      let _ ← takeWhile (fun char => Chars.isSpace char || char = ';')
      if (← get).rest.isEmpty then return
      readCommand
      readCommands bound

/-- Gives the last command the text that it waits for. -/
def giveText : Read Unit := do
  let text ← readText
  modify (fun reading =>
    { reading with
      waits := false
      commands := reading.commands.modify (reading.commands.size - 1) (fun command =>
        { command with
          action :=
            match command.action with
            | .append _ => .append text
            | .insert _ => .insert text
            | .change _ => .change text
            | action => action }) })

def Reading.add (reading : Reading) (piece : Chars) : Except (Failure × Nat) Reading := do
  let read : Read Unit := do
    if (← get).waits then giveText
    readCommands (piece.length + 1)
  let (_, reading) ← read.run { reading with rest := piece, count := 0 }
  return { reading with first := false }

structure Script where
  commands : Array Command
  labels : List (Chars × Nat)
  quiet : Bool

def Reading.script (reading : Reading) : Except Failure Script := do
  if !reading.groups.isEmpty then throw .openGroup
  for command in reading.commands do
    match command.action with
    | .jump _ label =>
        if !label.isEmpty && (reading.labels.lookup label).isNone then throw (.missingLabel label)
    | _ => pure ()
  return { commands := reading.commands, labels := reading.labels, quiet := reading.quiet }

end Editing
end Utility
end Machine
end AstLink
