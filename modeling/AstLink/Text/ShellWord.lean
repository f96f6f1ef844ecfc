namespace AstLink
namespace Text
namespace ShellWord

/-!
Words of a shell command line.  `join` writes a list of words as one line that a shell would read
back as the same words; `split` is the reading side, by the quoting rules of the shell: words
are separated by blanks, single quotes are literal, a backslash outside quotes takes the
next character as it is, and `#` at the start of a word begins a comment.
-/

def quoteMark : Char := '\x27'

/-- The characters that mean something to a shell, wherever they stand or at the start of a word.
A word that holds one is written between single quotes. -/
def special : List Char :=
  ['\n', '\x27', '|', '&', ';', '<', '>', '(', ')', '$', '\x60', '\\', '"', ' ', '\t', '*', '?',
    '[', '#', '~', '=', '%']

/-- Whether a word can be written as it is.  The empty word cannot: it would vanish. -/
def isPlain (word : List Char) : Bool :=
  !word.isEmpty && word.all (fun char => !special.contains char)

/-- One character between single quotes.  Nothing escapes a single quote inside single quotes, so
the quotes are closed, an escaped quote is written, and they are opened again. -/
def quotedChar (char : Char) : List Char :=
  if char = quoteMark then [quoteMark, '\\', quoteMark, quoteMark] else [char]

def quote (word : List Char) : List Char :=
  if isPlain word then word
  else quoteMark :: (word.flatMap quotedChar ++ [quoteMark])

/-- The written form of a list of words, one space apart. -/
def join (words : List (List Char)) : List Char :=
  ((words.map quote).intersperse [' ']).flatten

/-! ## Reading -/

/-- Where the reader stands within a line.  The states that lie inside a word are kept apart from
those between words, because a word that ends empty counts only if a quote opened it. -/
inductive Place where
  | between
  | betweenEscape
  | plain
  | plainEscape
  | single
  | double
  | doubleEscape
  | comment
  deriving DecidableEq, Repr

/-- A position of the reader: its place, the word being read (latest character first) and the
words already read (latest first). -/
structure Position where
  place : Place := .between
  word : List Char := []
  words : List (List Char) := []

namespace Position

def close (position : Position) (place : Place) : Position :=
  { place, word := [], words := position.word.reverse :: position.words }

def add (position : Position) (chars : List Char) (place : Place) : Position :=
  { position with place, word := chars.reverse ++ position.word }

def move (position : Position) (place : Place) : Position := { position with place }

def isSeparator (char : Char) : Bool := char = ' ' || char = '\t' || char = '\n'

def step (position : Position) (char : Char) : Position :=
  match position.place with
  | .between =>
      if char = quoteMark then position.move .single
      else if char = '"' then position.move .double
      else if char = '\\' then position.move .betweenEscape
      else if isSeparator char then position
      else if char = '#' then position.move .comment
      else position.add [char] .plain
  | .betweenEscape =>
      if char = '\n' then position.move .between else position.add [char] .plain
  | .plain =>
      if char = quoteMark then position.move .single
      else if char = '"' then position.move .double
      else if char = '\\' then position.move .plainEscape
      else if isSeparator char then position.close .between
      else position.add [char] .plain
  | .plainEscape =>
      if char = '\n' then position.move .plain else position.add [char] .plain
  | .single =>
      if char = quoteMark then position.move .plain else position.add [char] .single
  | .double =>
      if char = '"' then position.move .plain
      else if char = '\\' then position.move .doubleEscape
      else position.add [char] .double
  | .doubleEscape =>
      if char = '\n' then position.move .double
      else if char = '$' || char = '\x60' || char = '"' || char = '\\' then
        position.add [char] .double
      else position.add ['\\', char] .double
  | .comment => if char = '\n' then position.move .between else position

/-- The words at the end of the line, or nothing when a quotation is still open.  A backslash at
the very end stands for itself. -/
def finish? (position : Position) : Option (List (List Char)) :=
  match position.place with
  | .between | .comment => some position.words.reverse
  | .plain => some (position.close .between).words.reverse
  | .betweenEscape | .plainEscape =>
      some ((position.add ['\\'] .plain).close .between).words.reverse
  | .single | .double | .doubleEscape => none

end Position

/-- The words of a line, or nothing when a quotation is not closed. -/
def split (line : List Char) : Option (List (List Char)) :=
  (line.foldl Position.step {}).finish?

end ShellWord
end Text
end AstLink
