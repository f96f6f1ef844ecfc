import AstLink.CommandLine.Refusal
import AstLink.Invocation

namespace AstLink

/-!
The command line.  Options are looked for only in its *leading* part, the three words after the
name of the program.  Everything after that is the list of libraries, word for word: a library may
be called `--help`.

The leading words are read from left to right.  An empty value is refused, but it is noticed late:
when the next value comes, when an option is about to end the reading, or at the end.  A word that
is no known option is refused at once, so it wins over an empty value just before it.
-/

structure CommandLine where
  compiler : Path
  target : Path
  placeholder : Path
  libraries : List Path
  deriving Repr

namespace CommandLine

/-- How many words the leading part has, the name of the program not counted. -/
def leadingCount : Nat := 3

/-- Refuses when the value given last is empty. -/
def checkLast (given : List Bytes) : Except Refusal Unit :=
  match given.getLast? with
  | some [] => .error (.emptyValue (Positional.ofIndex (given.length - 1)))
  | _ => .ok ()

/-- Whether a value has been taken for good.  The value given last has not: it is taken when the
next one comes. -/
def isTaken (given : List Bytes) : Bool := 1 < given.length

/-- Reads leading words.  `given` are the values read so far and `ended` says whether the options
have been ended. -/
def values (given : List Bytes) (ended : Bool) : List Bytes -> Except Refusal (List Bytes)
  | [] => do
      checkLast given
      return given
  | word :: rest =>
      match if ended then Word.value else Word.ofBytes word with
      | .endOfOptions => values given true rest
      | .value => do
          checkLast given
          values (given ++ [word]) ended rest
      | .flag flag => do
          checkLast given
          throw flag.refusal
      | .flagValue flag value => .error (.unexpectedValue flag value (isTaken given))
      | .unknown text similar => .error (.unknownOption text similar)

def parse (words : List Bytes) : Except Refusal CommandLine := do
  match ← values [] false ((words.drop 1).take leadingCount) with
  | [compiler, target, placeholder] =>
      return {
        compiler := ⟨compiler⟩
        target := ⟨target⟩
        placeholder := ⟨placeholder⟩
        libraries := (words.drop (1 + leadingCount)).map Path.mk }
  | given => throw (.missing (Positional.all.drop given.length))

def invocation (line : CommandLine) : Invocation where
  compiler := line.compiler
  target := line.target
  placeholder := line.placeholder
  libraries := line.libraries

end CommandLine

end AstLink
