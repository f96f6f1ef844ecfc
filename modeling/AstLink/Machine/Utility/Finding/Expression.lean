import AstLink.Machine.Format
import AstLink.Machine.Permission
import AstLink.Machine.Utility.Files

namespace AstLink
namespace Machine
namespace Utility
namespace Finding

/-!
The expressions of `find`: tests of files and things done with them, joined by operators.  The words
of an expression are read one by one into tokens, so that whatever is wrong with a single word is
told first; the tokens then are put together.
-/

/-- How a number is compared with another. -/
inductive Comparison where
  | exactly
  | more
  | less
  deriving DecidableEq, Repr

/-- A number, and how others are compared with it. -/
structure Limit where
  comparison : Comparison
  value : Nat

def Limit.holds (limit : Limit) (number : Nat) : Bool :=
  match limit.comparison with
  | .exactly => number = limit.value
  | .more => limit.value < number
  | .less => number < limit.value

/-- A part of a format. -/
inductive Piece where
  | text (text : Chars)
  /-- What is known about a file under a letter. -/
  | field (conversion : Format.Conversion)
  /-- Nothing comes behind this. -/
  | stop

/-- A test of a file, or something done with it. -/
inductive Primary where
  | constant (value : Bool)
  | name (pattern : Chars) (caseless : Bool)
  | path (pattern : Chars) (caseless : Bool)
  | sort (letters : Chars)
  | size (limit : Limit) (unit : Nat)
  | empty
  | newer (time : Nat)
  /-- The mode as it is, or as far as it goes beyond bits or shares some with them. -/
  | mode (comparison : Comparison) (bits : Nat)
  | links (limit : Limit)
  | executable
  | prune
  | quit
  | print (ending : Char)
  | format (pieces : List Piece)
  | execute (words : List Chars)
  /-- Runs a command with many paths, in the end. -/
  | gather (number : Nat)
  | delete

inductive Expression where
  | primary (primary : Primary)
  | not (expression : Expression)
  | both (first second : Expression)
  | either (first second : Expression)
  | sequence (first second : Expression)

inductive Operator where
  | both
  | either
  | sequence
  deriving DecidableEq, Repr

/-- A word of an expression, or what several of them say. -/
inductive Token where
  | primary (primary : Primary)
  | not (name : Chars)
  | operator (operator : Operator) (name : Chars)
  | opening
  | closing

/-! ## Putting tokens together -/

/-- Why tokens are no expression. -/
inductive Failure where
  | nothingAfter (name : Chars)
  | nothingBetween (name : Chars)
  | nothingBefore (name : Chars)
  | nothingInside
  | unopened
  | openAtEnd
  | unclosed

def Failure.message : Failure -> Chars
  | .nothingAfter name => "expected an expression after \x27".toList ++ name ++ ['\x27']
  | .nothingBetween name =>
      "expected an expression between \x27".toList ++ name ++ "\x27 and \x27)\x27".toList
  | .nothingBefore name =>
      "invalid expression; you have used a binary operator \x27".toList ++ name ++
        "\x27 with nothing before it.".toList
  | .nothingInside => "invalid expression; empty parentheses are not allowed.".toList
  | .unopened => "you have too many \x27)\x27".toList
  | .openAtEnd =>
      ("invalid expression; expected to find a \x27)\x27 but didn\x27t see one. " ++
        "Perhaps you need an extra predicate after \x27(\x27").toList
  | .unclosed =>
      "invalid expression; I was expecting to find a \x27)\x27 somewhere but did not see one.".toList

def Operator.join : Operator -> Expression -> Expression -> Expression
  | .both => .both
  | .either => .either
  | .sequence => .sequence

def Operator.rank : Operator -> Nat
  | .sequence => 1
  | .either => 2
  | .both => 3

/-- The operator at the beginning of tokens, and what follows it.  Two expressions that stand side
by side must both hold. -/
def operator? : List Token -> Option (Operator × Option Chars × List Token)
  | [] | .closing :: _ => none
  | .operator operator name :: rest => some (operator, some name, rest)
  | tokens => some (.both, none, tokens)

mutual

/-- The expression that tokens begin with, without operators, and what follows it.  `before` is the
operator that stands before it. -/
def operand : Nat -> Option Chars -> List Token -> Except Failure (Expression × List Token)
  | 0, _, _ => .error .unclosed
  | bound + 1, before, tokens =>
      match tokens, before with
      | [], some name => .error (.nothingAfter name)
      | [], none => .error .unclosed
      | .closing :: _, some name => .error (.nothingBetween name)
      | .closing :: _, none => .error .unopened
      | .operator _ name :: _, _ => .error (.nothingBefore name)
      | .primary primary :: rest, _ => .ok (.primary primary, rest)
      | .not name :: rest, _ => do
          let (expression, rest) ← operand bound (some name) rest
          return (.not expression, rest)
      | .opening :: [], _ => .error .openAtEnd
      | .opening :: .closing :: _, _ => .error .nothingInside
      | .opening :: rest, _ => do
          let (expression, rest) ← expressionOf bound 0 none rest
          match rest with
          | .closing :: rest => return (expression, rest)
          | _ => throw .unclosed

/-- The expression that tokens begin with, whose operators bind more closely than a rank. -/
def expressionOf :
    Nat -> Nat -> Option Chars -> List Token -> Except Failure (Expression × List Token)
  | 0, _, _, _ => .error .unclosed
  | bound + 1, rank, before, tokens => do
      let (first, rest) ← operand bound before tokens
      furtherOf bound rank first rest

/-- An expression with the operators behind it that bind more closely than a rank. -/
def furtherOf : Nat -> Nat -> Expression -> List Token -> Except Failure (Expression × List Token)
  | 0, _, _, _ => .error .unclosed
  | bound + 1, rank, first, tokens =>
      match operator? tokens with
      | none => .ok (first, tokens)
      | some (operator, name, rest) =>
          if operator.rank ≤ rank then .ok (first, tokens)
          else do
            let (second, rest) ← expressionOf bound operator.rank name rest
            furtherOf bound rank (operator.join first second) rest

end

/-- The expression that tokens make up; without any it is always true. -/
def parse (tokens : List Token) : Except Failure Expression := do
  if tokens.isEmpty then return .primary (.constant true)
  let (expression, rest) ← expressionOf (4 * tokens.length + 4) 0 none tokens
  if rest.isEmpty then return expression else throw .unopened

/-! ## Reading words -/

/-- What the words of an expression say. -/
structure Reading where
  /-- Latest first. -/
  tokens : List Token := []
  /-- The commands that are run with many paths, latest first. -/
  gathered : List (List Chars) := []
  /-- Whether files are printed if nothing is said about it. -/
  printing : Bool := true
  /-- Whether what is in a directory comes before it. -/
  inwardFirst : Bool := false
  least : Nat := 0
  most : Option Nat := none

def Reading.push (reading : Reading) (primary : Primary) : Reading :=
  { reading with tokens := .primary primary :: reading.tokens }

/-- What was read, and something that is done with files. -/
def Reading.act (reading : Reading) (primary : Primary) : Reading :=
  { reading.push primary with printing := false }

def called (name : Chars) : Chars := '\x60' :: name ++ ['\x27']

def refuseWord {α : Type} (name word : Chars) : Task α :=
  Task.fail 1 ("invalid argument ".toList ++ called word ++ " to ".toList ++ called name)

/-- A number with a sign that says how others are compared with it. -/
def limit? (text : Chars) : Option Limit :=
  let (comparison, digits) : Comparison × Chars :=
    match text with
    | '+' :: digits => (.more, digits)
    | '-' :: digits => (.less, digits)
    | digits => (.exactly, digits)
  if Chars.isNumber digits then some ⟨comparison, Chars.digitsValue digits⟩ else none

def unit? (letter : Char) : Option Nat :=
  [('b', 512), ('c', 1), ('w', 2), ('k', 1024), ('M', Nat.pow 1024 2), ('G', Nat.pow 1024 3)].lookup letter

def readSize (text : Chars) : Task Primary := do
  if text.isEmpty then Task.fail 1 "invalid null argument to -size".toList
  let last := (text.getLast?).getD '0'
  let (digits, unit) ←
    match unit? last with
    | some unit => pure (text.dropLast, unit)
    | none =>
        if last.isDigit then pure (text, 512)
        else Task.fail 1 ("invalid -size type ".toList ++ called [last])
  match limit? digits with
  | some limit => return .size limit unit
  | none =>
      Task.fail 1 ("Invalid argument ".toList ++ called text ++ " to -size".toList)

/-- Kinds of files, by letters with commas between them. -/
def readSorts (text : Chars) : Task Primary := do
  if text.isEmpty then
    Task.fail 1 "Arguments to -type should contain at least one letter".toList
  let rec letters : Chars -> Chars -> Task Chars
    | done, [] => return done
    | done, letter :: rest => do
        if !"bcdflpsD".toList.contains letter then
          Task.fail 1 ("Unknown argument to -type: ".toList ++ [letter])
        if done.contains letter then
          Task.fail 1
            ("Duplicate file type \x27".toList ++
              letter :: "\x27 in the argument list to -type.".toList)
        match rest with
        | [] => return letter :: done
        | [','] =>
            Task.fail 1
              ("Last file type in list argument to -type is missing, " ++
                "i.e., list is ending on: \x27,\x27").toList
        | ',' :: rest => letters (letter :: done) rest
        | _ => Task.fail 1 "Must separate multiple arguments to -type using: \x27,\x27".toList
  return .sort (← letters [] text)

/-- A mode, with a sign for how others are compared with it. -/
def readMode (text : Chars) : Task Primary := do
  let (comparison, rest) : Comparison × Chars :=
    match text with
    | '-' :: rest => (.more, rest)
    | '/' :: rest => (.less, rest)
    | rest => (.exactly, rest)
  match Permission.Change.all? rest with
  | some changes => return .mode comparison (Permission.Change.applyAll changes false 0 0)
  | none => Task.fail 1 ("invalid mode ".toList ++ marked text)

/-- The letters of a format under which something is known about files. -/
def fieldLetters : Chars := "pfhPHsmMdylnuUgGi".toList

def readFormat : Nat -> Chars -> Chars -> Task (List Piece)
  | 0, _, _ => return []
  | bound + 1, done, text => do
      let before := if done.isEmpty then [] else [Piece.text done.reverse]
      match text with
      | [] => return before
      | '\\' :: 'c' :: _ => return before ++ [.stop]
      | '\\' :: rest =>
          let (char, count) := Format.escape rest
          if 0 < count then readFormat bound (char :: done) (rest.drop count)
          else
            match rest with
            | [] =>
                Task.complain "warning: escape \x60\\\x27 followed by nothing at all".toList
                return before ++ [.text ['\\']]
            | letter :: rest =>
                Task.complain
                  ("warning: unrecognized escape ".toList ++ called ['\\', letter])
                readFormat bound (letter :: '\\' :: done) rest
      | '%' :: '%' :: rest => readFormat bound ('%' :: done) rest
      | '%' :: rest =>
          let flags := rest.takeWhile "-+ #0".toList.contains
          let rest := rest.drop flags.length
          let width := rest.takeWhile Char.isDigit
          let rest := rest.drop width.length
          let (precision, rest) : Option Nat × Chars :=
            match rest with
            | '.' :: rest =>
                let digits := rest.takeWhile Char.isDigit
                (some (Chars.digitsValue digits), rest.drop digits.length)
            | rest => (none, rest)
          match rest with
          | [] => Task.fail 1 "error: % at end of format string".toList
          | letter :: rest =>
              if fieldLetters.contains letter then
                let conversion : Format.Conversion :=
                  { flags, width := Chars.digitsValue width, precision, kind := letter }
                return before ++ .field conversion :: (← readFormat bound [] rest)
              else
                Task.complain
                  ("warning: unrecognized format directive ".toList ++ called ['%', letter])
                readFormat bound (letter :: '%' :: done) rest
      | char :: rest => readFormat bound (char :: done) rest

/-- What is replaced by a path in a command. -/
def hole : Chars := ['\x7b', '\x7d']

/-- The words of a command, whether many paths stand behind them, and what follows. -/
def commandOf? : List Chars -> List Chars -> Option (List Chars × Bool × List Chars)
  | _, [] => none
  | done, word :: rest =>
      if word = [';'] then some (done.reverse, false, rest)
      else if word = ['+'] && done.head? = some hole then some ((done.drop 1).reverse, true, rest)
      else commandOf? (word :: done) rest

def readCommand (reading : Reading) (name : Chars) (words : List Chars) :
    Task (Reading × List Chars) := do
  match commandOf? [] words with
  | some ([], false, _) => refuseWord name (words.headD [])
  | none =>
      match words.getLast?, words.dropLast.getLast? with
      | some ['+'], some word =>
          if Chars.holds hole word then
            Task.fail 1
              ("In \x27".toList ++ name ++
                (" ... \x7b\x7d +\x27 the \x27\x7b\x7d\x27 must appear by itself, " ++
                  "but you specified ").toList ++ marked word)
      | _, _ => pure ()
      Task.fail 1 ("missing argument to ".toList ++ called name)
  | some (command, false, rest) => return (reading.act (.execute command), rest)
  | some (command, true, rest) =>
      if command.any (Chars.holds hole) then
        Task.fail 1
          ("Only one instance of \x7b\x7d is supported with ".toList ++ name ++ " ... +".toList)
      let number := reading.gathered.length
      return ({ reading.act (.gather number) with gathered := command :: reading.gathered }, rest)

def readDepth (name text : Chars) : Task Nat := do
  if Chars.isNumber text then return Chars.digitsValue text
  else
    Task.fail 1
      ("Expected a positive decimal integer argument to ".toList ++ name ++ ", but got ".toList ++
        marked text)

def readWithWord (reading : Reading) (name word : Chars) : Task Reading := do
  match String.ofList (name.drop 1) with
  | "name" => return reading.push (.name word false)
  | "iname" => return reading.push (.name word true)
  | "path" | "wholename" => return reading.push (.path word false)
  | "ipath" | "iwholename" => return reading.push (.path word true)
  | "type" => return reading.push (← readSorts word)
  | "size" => return reading.push (← readSize word)
  | "perm" => return reading.push (← readMode word)
  | "links" =>
      match limit? word with
      | some limit => return reading.push (.links limit)
      | none => refuseWord name word
  | "newer" =>
      match ← Work.inspect word true with
      | .ok info => return reading.push (.newer info.changed)
      | .error obstacle => Task.fail 1 (marked word ++ ": ".toList ++ obstacle.text.toList)
  | "printf" => return reading.act (.format (← readFormat (word.length + 1) [] word))
  | "maxdepth" =>
      return { reading.push (.constant true) with most := some (← readDepth name word) }
  | _ => return { reading.push (.constant true) with least := ← readDepth name word }

def withWord : List String :=
  ["name", "iname", "path", "wholename", "ipath", "iwholename", "type", "size", "perm", "links",
    "newer", "printf", "maxdepth", "mindepth"]

/-- The primary or the operator that a word is by itself. -/
def readAlone? (reading : Reading) (word : Chars) : Option Reading :=
  let token (token : Token) : Reading := { reading with tokens := token :: reading.tokens }
  match String.ofList word with
  | "(" => some (token .opening)
  | ")" => some (token .closing)
  | "!" | "-not" => some (token (.not word))
  | "-a" | "-and" => some (token (.operator .both word))
  | "-o" | "-or" => some (token (.operator .either word))
  | "," => some (token (.operator .sequence word))
  | "-true" | "-xdev" | "-mount" | "-noleaf" | "-daystart" | "-warn" | "-nowarn" | "-readable"
  | "-writable" | "-ignore_readdir_race" | "-noignore_readdir_race" =>
      some (reading.push (.constant true))
  | "-false" => some (reading.push (.constant false))
  | "-empty" => some (reading.push .empty)
  | "-executable" => some (reading.push .executable)
  | "-prune" => some (reading.push .prune)
  | "-quit" => some (reading.push .quit)
  | "-print" => some (reading.act (.print '\n'))
  | "-print0" => some (reading.act (.print '\x00'))
  | "-delete" => some { reading.act .delete with inwardFirst := true }
  | "-depth" | "-d" => some { reading.push (.constant true) with inwardFirst := true }
  | _ => none

def isExpression (leading : Bool) (word : Chars) : Bool :=
  match word with
  | '-' :: _ :: _ | ['('] | ['!'] => true
  | [')'] | [','] => !leading
  | _ => false

/-- Refuses a word that is no part of an expression.  If it is a path, it may come from a pattern
behind the name before it. -/
def refusePath (before : Option Chars) (word : Chars) : Task Unit := do
  Task.complain ("paths must precede expression: ".toList ++ called word)
  if (← Work.inspect word true).toOption.isSome then
    before.forM (fun name =>
      Task.complain ("possible unquoted pattern after predicate ".toList ++ called name ++ ['?']))
  Task.stop 1

/-- Reads the words of an expression.  `before` is the name that was read last. -/
def readWords (before : Option Chars) : Nat -> Reading -> List Chars -> Task Reading
  | 0, reading, _ | _, reading, [] => return reading
  | bound + 1, reading, word :: rest => do
      if !isExpression false word then refusePath before word
      match readAlone? reading word with
      | some reading => readWords (some word) bound reading rest
      | none =>
          if word = "-exec".toList then
            let (reading, rest) ← readCommand reading word rest
            readWords (some word) bound reading rest
          else if withWord.contains (String.ofList (word.drop 1)) then
            match rest with
            | [] => Task.fail 1 ("missing argument to ".toList ++ called word)
            | given :: rest => readWords (some word) bound (← readWithWord reading word given) rest
          else Task.fail 1 ("unknown predicate ".toList ++ called word)

end Finding
end Utility
end Machine
end AstLink
