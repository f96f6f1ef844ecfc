import AstLink.Machine.Shell.Token

namespace AstLink
namespace Machine
namespace Shell
namespace Lexer

/-!
From characters to tokens.

What a character means in a word depends on what stands open around it: a quotation, a parameter
between braces, an expression.  These are kept as a stack of frames.  A word is first written down as
a row of signs, in which parameters and expressions are opened and closed, and the row is then put
together as a tree.
-/

open Reading

/-- How characters are read. -/
inductive Mode where
  | bare
  | double
  | single
  | arithmetic
  deriving DecidableEq, Repr

/-- What stands open at one level. -/
structure Frame where
  mode : Mode
  /-- Whether a quotation has been opened again inside a parameter. -/
  inner : Bool := false
  /-- Whether the frame was opened by a parameter and closes with it. -/
  byParameter : Bool := false
  quoted : Bool := false
  /-- How many parameters stand open. -/
  nested : Nat := 0
  quotedNested : Nat := 0
  /-- How many parentheses stand open in an expression. -/
  parentheses : Nat := 0

inductive Sign where
  | text (char : Char)
  | escaped (char : Char)
  | mark
  | parameter (name : Chars) (use : Use) (orEmpty : Bool)
  | endOfParameter
  | arithmetic
  | endOfArithmetic
  | output (body : Option Statement)

/-! ## Putting words together -/

/-- A part that has been opened and not closed, with what stood before it, latest first. -/
inductive Opened where
  | parameter (name : Chars) (use : Use) (orEmpty : Bool) (before : List Part)
  | arithmetic (before : List Part)

def addChar (char : Char) : List Part -> List Part
  | .text chars :: parts => .text (char :: chars) :: parts
  | parts => .text [char] :: parts

/-- Parts in order.  Within a text the characters were added latest first. -/
def inOrder (parts : List Part) : List Part :=
  (parts.map (fun part =>
    match part with
    | .text chars => Part.text chars.reverse
    | part => part)).reverse

/-- The word that a row of signs writes.  `parts` are those of the innermost open part. -/
def assemble (opened : List Opened) (parts : List Part) : List Sign -> Word
  | [] => inOrder parts
  | sign :: signs =>
      match sign with
      | .text char => assemble opened (addChar char parts) signs
      | .escaped char => assemble opened (.escaped char :: parts) signs
      | .mark => assemble opened (.mark :: parts) signs
      | .output body => assemble opened (.output body :: parts) signs
      | .parameter name use orEmpty =>
          if use = .value && !orEmpty then
            assemble opened (.parameter name use orEmpty [] :: parts) signs
          else assemble (.parameter name use orEmpty parts :: opened) [] signs
      | .arithmetic => assemble (.arithmetic parts :: opened) [] signs
      | .endOfParameter | .endOfArithmetic =>
          match opened with
          | .parameter name use orEmpty before :: opened =>
              assemble opened (.parameter name use orEmpty (inOrder parts) :: before) signs
          | .arithmetic before :: opened =>
              assemble opened (.arithmetic (inOrder parts) :: before) signs
          | [] => assemble [] parts signs

/-! ## Reading words -/

/-- A word in the making: the open frames, the innermost first, and the signs, latest first. -/
structure Draft where
  frame : Frame
  outer : List Frame := []
  signs : List Sign := []
  quoted : Bool := false

namespace Draft

def add (draft : Draft) (sign : Sign) : Draft := { draft with signs := sign :: draft.signs }

def push (draft : Draft) (frame : Frame) : Draft :=
  { draft with frame, outer := draft.frame :: draft.outer }

/-- Closes the innermost frame. -/
def pop (draft : Draft) : Draft :=
  match draft.outer with
  | frame :: outer => { draft with frame, outer }
  | [] => draft

end Draft

structure Ending where
  text : Chars
  tabs : Bool
  /-- Whether the text that is read ends only at its end. -/
  never : Bool := false

inductive Class where
  | newline
  | ordinary
  /-- It has a meaning in patterns and elsewhere, but not where it stands. -/
  | tamed
  | backslash
  | singleQuote
  | doubleQuote
  | endQuote
  | dollar
  | brace
  | left
  | right
  | backquote
  | ending
  /-- It ends a word. -/
  | special
  deriving DecidableEq

def classOf (mode : Mode) (char : Option Char) : Class :=
  match char with
  | none => .ending
  | some char =>
      match mode, char with
      | _, '\n' => .newline
      | .single, '\x27' => .endQuote
      | .single, '\\' => .tamed
      | .single, char => if "!*?[=~:/-]".toList.contains char then .tamed else .ordinary
      | _, '\\' => .backslash
      | _, '$' => .dollar
      | _, '\x60' => .backquote
      | _, '\x7d' => .brace
      | .bare, '\x27' => .singleQuote
      | .bare, '"' => .doubleQuote
      | .bare, char => if "<>();&| \t".toList.contains char then .special else .ordinary
      | .double, '"' => .endQuote
      | .double, char => if "!*?[=~:/-]".toList.contains char then .tamed else .ordinary
      | .arithmetic, '(' => .left
      | .arithmetic, ')' => .right
      | .arithmetic, _ => .ordinary

/-- Whether a character may name a parameter by itself. -/
def isSpecial (char : Char) : Bool :=
  char.isDigit || ['?', '$', '!', '-', '#', '*', '@'].contains char

/-- Takes the characters of a class, the first being given, and gives the one behind them. -/
def takeChars (inClass : Char -> Bool) (done : Chars) :
    Nat -> Option Char -> Reading (Chars × Option Char)
  | 0, char => return (done.reverse, char)
  | bound + 1, char =>
      match char with
      | some found =>
          if inClass found then do takeChars inClass (found :: done) bound (← nextJoined)
          else return (done.reverse, char)
      | none => return (done.reverse, none)

/-- Reads the name of a parameter between braces, from a character on.  The result is the name, what
is known about its use, and the character behind it; there is no name if what stands there is none.
-/
def bracedName (char : Option Char) : Reading (Option (Chars × Bool) × Option Char) := do
  match char with
  | none => return (some ([], false), none)
  | some first =>
      if isNameStart first then
        let (name, after) ← takeChars isNameChar [] bound char
        return (some (name, false), after)
      else if first.isDigit then
        let (name, after) ← takeChars Char.isDigit [] bound char
        return (some (name, false), after)
      else if first = '\x7d' then return (none, char)
      else
        let second ← nextJoined
        if first = '#' then
          match second with
          | some next =>
              if isNameStart next || next.isDigit then
                let inClass := if next.isDigit then Char.isDigit else isNameChar
                let (name, after) ← takeChars inClass [] bound second
                return (some (name, true), after)
              else
                let third ← nextJoined
                if next = '\x7d' || third != some '\x7d' then
                  putBack third
                  return (some (['#'], false), second)
                else if isSpecial next then return (some ([next], true), third)
                else return (none, third)
          | none => return (some (['#'], false), none)
        else if isSpecial first then return (some ([first], false), second)
        else return (none, second)

/-- Reads the use of a parameter between braces, from the character behind its name on.  The result
says whether an empty value counts as missing, and whether the word is read like one that stands
bare. -/
def useOf (char : Option Char) : Reading (Use × Bool × Bool) := do
  let (orEmpty, char) ←
    if char = some ':' then do pure (true, ← nextJoined) else pure (false, char)
  match char with
  | some '\x7d' => return (.value, orEmpty, false)
  | some '-' => return (.orElse, orEmpty, false)
  | some '+' => return (.instead, orEmpty, false)
  | some '?' => return (.demand, orEmpty, false)
  | some '=' => return (.assign, orEmpty, false)
  | some sign =>
      if (sign = '#' || sign = '%') && !orEmpty then
        let after ← nextJoined
        let longest := after = some sign
        if !longest then putBack after
        return (.cut (sign = '#') longest, false, true)
      else return (.unknown, orEmpty, false)
  | none => return (.unknown, orEmpty, false)

def takesWord (use : Use) (orEmpty : Bool) : Bool := use != .value || orEmpty

def openParameter (draft : Draft) (name : Chars) (use : Use) (orEmpty bare : Bool) : Draft :=
  let mode := if bare then .bare else draft.frame.mode
  let mode := if mode = .arithmetic then .double else mode
  let draft :=
    if (mode != draft.frame.mode || draft.frame.inner) && takesWord use orEmpty then
      draft.push { mode, byParameter := true, quoted := mode != .bare }
    else draft
  let draft := draft.add (.parameter name use orEmpty)
  if !takesWord use orEmpty then draft
  else
    let frame := draft.frame
    { draft with
      frame :=
        { frame with
          nested := frame.nested + 1
          quotedNested := frame.quotedNested + (if frame.quoted then 1 else 0) } }

/-- The text up to a closing back quote, with the backslashes taken out that only protect a
character from the quotation. -/
def backquoted (quoted : Bool) (done : Chars) : Nat -> Reading Chars
  | 0 => fail "EOF in backquote substitution"
  | bound + 1 => do
      match ← nextJoined with
      | some '\x60' => return done.reverse
      | some '\\' =>
          match ← next with
          | none => fail "EOF in backquote substitution"
          | some char =>
              let protectedChar :=
                char = '\\' || char = '\x60' || char = '$' || (quoted && char = '"')
              if char = '\n' then countLine
              backquoted quoted (if protectedChar then char :: done else char :: '\\' :: done) bound
      | none => fail "EOF in backquote substitution"
      | some char =>
          if char = '\n' then countLine
          backquoted quoted (char :: done) bound

/-- How commands inside a word are read: the commands and, with `true`, the parenthesis that ends
them; then the documents that belong to them. -/
structure Grammar where
  commands : Bool -> Reading (Option Statement)
  documents : Reading Unit

/-- Reads commands inside a word.  The documents that the outer command awaits are none of theirs.
-/
def inner (grammar : Grammar) (old quoted : Bool) : Reading (Option Statement) := do
  if old then
    let text ← backquoted quoted [] bound
    let awaited := (← get).awaited
    modify (fun cursor => { cursor with awaited := [] })
    let body ← elsewhere text 1 (do
      let body ← grammar.commands false
      grammar.documents
      return body)
    modify (fun cursor => { cursor with awaited, again := false })
    return body
  else
    let awaited := (← get).awaited
    modify (fun cursor => { cursor with awaited := [] })
    let body ← grammar.commands true
    let line := (← get).line
    elsewhere [] line grammar.documents
    modify (fun cursor => { cursor with awaited })
    return body

def dollar (grammar : Grammar) (draft : Draft) : Reading Draft := do
  let char ← nextJoined
  let isStart :=
    match char with
    | some char => char = '(' || char = '\x7b' || isNameStart char || isSpecial char
    | none => false
  if (← get).watch.ending || !isStart then
    putBack char
    return draft.add (.text '$')
  match char with
  | some '(' =>
      let after ← nextJoined
      if after = some '(' then
        return (draft.push { mode := .arithmetic, quoted := true }).add .arithmetic
      else
        putBack after
        let body ← inner grammar false draft.frame.quoted
        return draft.add (.output body)
  | some '\x7b' =>
      let (name, after) ← bracedName (← nextJoined)
      match name with
      | none =>
          putBack after
          return openParameter draft [] .unknown false false
      | some (name, true) =>
          putBack after
          let use := if after = some '\x7d' then Use.length else .unknown
          return openParameter draft name use false false
      | some (name, false) =>
          let (use, orEmpty, bare) ← useOf after
          return openParameter draft name use orEmpty bare
  | some char =>
      if isNameStart char then
        let (name, after) ← takeChars isNameChar [] bound (some char)
        putBack after
        return draft.add (.parameter name .value false)
      else return draft.add (.parameter [char] .value false)
  | none => return draft

/-- Whether the line that is next, its first character being given, is the one with which a document
ends.  If it is, it is taken. -/
def isEnding (ending : Ending) (char : Option Char) : Reading (Bool × Option Char) := do
  if ending.never then return (false, char)
  let cursor ← get
  let text := char.toList ++ cursor.rest
  let text := if ending.tabs then text.dropWhile (fun char => char = '\t') else text
  if ending.text.isPrefixOf text then
    match text.drop ending.text.length with
    | [] =>
        set { cursor with rest := [], line := cursor.line + 1 }
        return (true, none)
    | '\n' :: rest =>
        set { cursor with rest, line := cursor.line + 1 }
        return (true, none)
    | _ => pure ()
  match text with
  | [] => return (false, none)
  | first :: rest =>
      set { cursor with rest }
      return (false, some first)

/-- The next character inside a word. -/
def following (frame : Frame) : Reading (Option Char) :=
  if frame.mode = .single then next else nextJoined

/-- Reads a word, from a character on, up to a character that does not belong to it, which is the
result.  `starts` says that the character stands at the beginning of a line. -/
def scan (grammar : Grammar) (ending : Option Ending) :
    Nat -> Bool -> Option Char -> Draft -> Reading (Option Char × Draft)
  | 0, _, char, draft => return (char, draft)
  | bound + 1, starts, char, draft => do
      let (ended, char) ←
        match starts, ending with
        | true, some ending => isEnding ending char
        | _, _ => pure (false, char)
      if ended then return (none, draft)
      let frame := draft.frame
      let goOn (draft : Draft) : Reading (Option Char × Draft) := do
        scan grammar ending bound false (← following draft.frame) draft
      match char with
      | none => return (none, draft)
      | some found =>
          match classOf frame.mode char with
          | .newline =>
              if frame.mode = .bare && frame.nested = 0 then return (char, draft)
              else
                countLine
                scan grammar ending bound true (← next) (draft.add (.text '\n'))
          | .ordinary | .ending => goOn (draft.add (.text found))
          | .tamed =>
              goOn (draft.add (if ending.isNone || frame.quoted then .escaped found else .text found))
          | .backslash => do
              match ← next with
              | none => goOn (draft.add (.escaped '\\'))
              | some after =>
                  let kept :=
                    frame.quoted && after != '\\' && after != '\x60' && after != '$' &&
                      (after != '"' || (ending.isSome && frame.nested = 0)) &&
                      (after != '\x7d' || frame.nested = 0)
                  let draft := if kept then draft.add (.escaped '\\') else draft
                  goOn { draft.add (.escaped after) with quoted := true }
          | .singleQuote =>
              let draft := { draft with frame := { frame with mode := .single } }
              goOn (if ending.isNone then draft.add .mark else draft)
          | .doubleQuote =>
              let inner := if frame.nested != 0 then !frame.inner else frame.inner
              let draft := { draft with frame := { frame with mode := .double, quoted := true, inner } }
              goOn (if ending.isNone then draft.add .mark else draft)
          | .endQuote =>
              if ending.isSome && frame.nested = 0 then goOn (draft.add (.text found))
              else
                let frame :=
                  if frame.quotedNested = 0 then { frame with mode := .bare, quoted := false }
                  else frame
                let frame :=
                  if found = '"' && frame.nested != 0 then { frame with inner := !frame.inner }
                  else frame
                let draft := { draft with frame, quoted := true }
                goOn (if ending.isNone then draft.add .mark else draft)
          | .dollar => do goOn (← dollar grammar draft)
          | .brace =>
              if !frame.inner && frame.nested != 0 then
                let nested := frame.nested - 1
                let draft :=
                  if nested = 0 && frame.byParameter then draft.pop
                  else
                    { draft with
                      frame := { frame with nested, quotedNested := frame.quotedNested - 1 } }
                goOn (draft.add .endOfParameter)
              else goOn (draft.add (.text found))
          | .left =>
              let frame := { frame with parentheses := frame.parentheses + 1 }
              goOn ({ draft with frame }.add (.text found))
          | .right => do
              if frame.parentheses != 0 then
                let frame := { frame with parentheses := frame.parentheses - 1 }
                goOn ({ draft with frame }.add (.text found))
              else
                let after ← nextJoined
                if after = some ')' then goOn (draft.add .endOfArithmetic).pop
                else
                  putBack after
                  goOn (draft.add (.text found))
          | .backquote => do
              if (← get).watch.ending then
                goOn { draft.add (.text found) with quoted := true }
              else
                let body ← inner grammar true frame.quoted
                goOn (draft.add (.output body))
          | .special =>
              if frame.nested = 0 then return (char, draft) else goOn (draft.add (.text found))

/-- Reads the sign of a redirection, from its first character on. -/
def opener (digits : Option Char) (sign : Char) : Reading Opener := do
  let number (standard : Nat) : Nat :=
    match digits with
    | some digit => digit.toNat - '0'.toNat
    | none => standard
  let after ← nextJoined
  if sign = '>' then
    match after with
    | some '>' => return .file (number 1) .append
    | some '|' => return .file (number 1) .overwrite
    | some '&' => return .duplicate (number 1)
    | after =>
        putBack after
        return .file (number 1) .output
  else
    match after with
    | some '<' =>
        let third ← nextJoined
        if third = some '-' then return .document (number 0) true
        else
          putBack third
          return .document (number 0) false
    | some '&' => return .duplicate (number 0)
    | some '>' => return .file (number 0) .both
    | after =>
        putBack after
        return .file (number 0) .input

/-- What is said of a parameter whose closing brace is missing. -/
def missingBrace : String := "Missing '\x7d'"

/-- Reads a word or the sign of a redirection, from a character on. -/
def wordFrom (grammar : Grammar) (mode : Mode) (ending : Option Ending) (char : Option Char) :
    Reading Token := do
  let frame : Frame := { mode, quoted := mode = .double }
  let (after, draft) ← scan grammar ending bound true char { frame }
  if draft.frame.mode = .arithmetic then fail "Missing '))'"
  if draft.frame.mode != .bare && ending.isNone then fail "Unterminated quoted string"
  if draft.frame.nested != 0 then fail missingBrace
  if ending.isNone then
    match after with
    | some sign =>
        if (sign = '>' || sign = '<') && !draft.quoted then
          match draft.signs with
          | [] =>
              let opener ← opener none sign
              modify (fun cursor => { cursor with opener, last := .redirection })
              return .redirection
          | [.text digit] =>
              if digit.isDigit then
                let opener ← opener (some digit) sign
                modify (fun cursor => { cursor with opener, last := .redirection })
                return .redirection
          | _ => pure ()
        putBack after
    | none => pure ()
  modify (fun cursor =>
    { cursor with
      word := assemble [] [] draft.signs.reverse
      quoted := draft.quoted
      last := .word })
  return .word

def skipComment : Reading Unit :=
  modify (fun cursor => { cursor with rest := cursor.rest.dropWhile (fun char => char != '\n') })

/-- Reads a token, keywords and aliases not looked at. -/
def raw (grammar : Grammar) : Nat -> Reading Token
  | 0 => return .ending
  | bound + 1 => do
      let cursor ← get
      if cursor.again then
        set { cursor with again := false }
        return cursor.last
      let give (token : Token) : Reading Token := do
        modify (fun cursor => { cursor with last := token })
        return token
      let twice (sign : Char) (double one : Token) : Reading Token := do
        let after ← nextJoined
        if after = some sign then give double
        else
          putBack after
          give one
      match ← nextJoined with
      | none => give .ending
      | some ' ' | some '\t' => raw grammar bound
      | some '#' => do
          skipComment
          raw grammar bound
      | some '\n' => do
          countLine
          give .newline
      | some '&' => twice '&' .both .ampersand
      | some '|' => twice '|' .either .pipe
      | some ';' => twice ';' .endOfArm .semicolon
      | some '(' => give .left
      | some ')' => give .right
      | char => wordFrom grammar .bare none char

/-- Passes ended line ends, reading the documents that are awaited there. -/
def skipLines (grammar : Grammar) : Nat -> Token -> Reading Token
  | 0, token => return token
  | bound + 1, token => do
      if token = .newline then
        grammar.documents
        modify (fun cursor => { cursor with watch := {} })
        skipLines grammar bound (← raw grammar bound)
      else return token

def token (grammar : Grammar) : Nat -> Watch -> Reading Token
  | 0, _ => return .ending
  | bound + 1, watched => do
      let first ← raw grammar bound
      let found ← if watched.lines then skipLines grammar bound first else pure first
      let cursor ← get
      let watched : Watch :=
        { aliases := watched.aliases || cursor.watch.aliases
          keywords := watched.keywords || cursor.watch.keywords
          lines := watched.lines }
      set { cursor with watch := {} }
      if found != .word || cursor.quoted then return found
      match Word.plain? cursor.word with
      | none => return found
      | some text =>
          if watched.keywords then
            match Keyword.all.find? (fun keyword => keyword.text.toList == text) with
            | some keyword =>
                modify (fun cursor => { cursor with last := .keyword keyword })
                return .keyword keyword
            | none => pure ()
          if watched.aliases && !cursor.below.any (fun layer => layer.1 == text) then
            match cursor.aliases.lookup text with
            | some value =>
                modify (fun cursor =>
                  if value.isEmpty then cursor
                  else
                    { cursor with rest := value, below := (text, cursor.rest) :: cursor.below })
                token grammar bound watched
            | none => return found
          else return found

def read (grammar : Grammar) : Reading Token := do
  let watch := (← get).watch
  token grammar bound watch

def documents (grammar : Grammar) : List Awaited -> Reading Unit
  | [] => return
  | awaited :: others => do
      let ending : Ending := { text := awaited.ending, tabs := awaited.tabs }
      let mode := if awaited.literal then Mode.single else .double
      let first ← if awaited.literal then next else nextJoined
      let _ ← wordFrom grammar mode (some ending) first
      modify (fun cursor =>
        { cursor with
          documents := (awaited.number, ⟨awaited.literal, cursor.word⟩) :: cursor.documents })
      documents grammar others

def awaitedDocuments (grammar : Grammar) : Reading Unit := do
  let awaited := (← get).awaited
  modify (fun cursor => { cursor with awaited := [] })
  documents grammar awaited

end Lexer
end Shell
end Machine
end AstLink
