import AstLink.Machine.Utility.Source
import AstLink.Machine.Utility.Viewing

namespace AstLink
namespace Machine
namespace Utility
namespace Folding

/-!
`fold`, which breaks lines that are too long.  What a line must not be longer than is counted in
columns, or in characters if that is asked for.
-/

/-- How lines are broken. -/
structure Manner where
  width : Nat := 80
  /-- Whether every character counts as one column. -/
  plain : Bool := false
  /-- Whether lines are broken behind blanks where there are any. -/
  atBlanks : Bool := false

def stopDistance : Nat := 8

def Manner.advance (manner : Manner) (column : Nat) (char : Char) : Nat :=
  if manner.plain then column + 1
  else
    match char with
    | '\x08' => column - 1
    | '\r' => 0
    | '\t' => column + stopDistance - column % stopDistance
    | _ => column + 1

/-- A line so far, without the lines that were broken off from it: its characters, latest first, and
its column. -/
structure Piece where
  done : List Chars := []
  chars : Chars := []
  column : Nat := 0

def Piece.break (manner : Manner) (piece : Piece) : Piece :=
  let isBlank (char : Char) : Bool := char = ' ' || char = '\t'
  let behind := piece.chars.takeWhile (fun char => !isBlank char)
  let kept := if manner.atBlanks && behind.length < piece.chars.length then behind else []
  let column := kept.reverse.foldl manner.advance 0
  { done := (piece.chars.drop kept.length).reverse :: piece.done, chars := kept, column }

/-- Takes a character behind a line, which is broken if it gets too long.  What is left of a line
that was broken behind a blank may be too long again. -/
def Piece.push (manner : Manner) (char : Char) : Nat -> Piece -> Piece
  | 0, piece => piece
  | bound + 1, piece =>
      let column := manner.advance piece.column char
      if manner.width < column && !piece.chars.isEmpty then
        Piece.push manner char bound (piece.break manner)
      else { piece with chars := char :: piece.chars, column }

def Manner.pieces (manner : Manner) (line : Chars) : List Chars :=
  let piece := line.foldl (fun piece char => Piece.push manner char 3 piece) ({} : Piece)
  (piece.chars.reverse :: piece.done).reverse

/-- The options of `fold`.  A number can be an option of its own. -/
def taking : Taking where
  flags :=
    [flag 'b' ["bytes"], flag 's' ["spaces"], given 'w' ["width"]] ++
      "0123456789".toList.map (fun digit => { letter := digit, giving := .wordIfJoined })
  check := fun _ letter value => do
    let text := if letter.isDigit then letter :: value.getD [] else value.getD []
    if letter = 'w' || letter.isDigit then
      let complaint := "invalid number of columns: ".toList ++ quoted text
      match count? text with
      | none => Task.fail 1 complaint
      | some number =>
          if !Chars.isNumber (text.dropWhile Chars.isSpace) then Task.fail 1 complaint
          if number = 0 || largestCount - stopDistance - 1 < number then
            let why :=
              if number = 0 then "Numerical result out of range"
              else "Value too large for defined data type"
            Task.fail 1 (complaint ++ ": ".toList ++ why.toList)

/-- Breaks the lines of files. -/
def run (words : List Chars) : Task Unit := do
  let arguments ← readArguments taking words
  let widths := arguments.options.filterMap (fun (letter, value) =>
    if letter = 'w' then value else if letter.isDigit then some (letter :: value.getD []) else none)
  let manner : Manner :=
    { width := (widths.getLast?.bind count?).getD 80
      plain := arguments.has 'b'
      atBlanks := arguments.has 's' }
  let showLine (_ : Unit) (line : Chars × Bool) : Task Unit := do
    Task.say (Chars.join ['\n'] (manner.pieces line.1))
    if line.2 then Task.say ['\n']
  for path in orInput arguments.operands do
    foldLines 1 '\n' showLine path ()

end Folding
end Utility
end Machine
end AstLink
