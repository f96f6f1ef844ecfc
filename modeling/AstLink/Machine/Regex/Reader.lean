import AstLink.Machine.Regex.Basic

namespace AstLink
namespace Machine
namespace Regex

/-!
How patterns are written.

There are two ways of writing.  In the basic one an operator is a sign behind a backslash, but for
the star; in the extended one it is the sign alone.  Programs differ in what they make of an operator
that has nothing to work on.
-/

/-- Why a pattern cannot be read. -/
inductive Failure where
  | invalid
  | className
  | collation
  | trailingBackslash
  | backReference
  | openBracket
  | openParen
  | openBrace
  | braceContent
  | rangeEnd
  | nothingToRepeat
  | tooBig
  | closeParen
  | bareClass
  deriving DecidableEq, Repr

def Failure.message : Failure -> String
  | .invalid => "Invalid regular expression"
  | .className => "Invalid character class name"
  | .collation => "Invalid collation character"
  | .trailingBackslash => "Trailing backslash"
  | .backReference => "Invalid back reference"
  | .openBracket => "Unmatched [, [^, [:, [., or [="
  | .openParen => "Unmatched ( or \\("
  | .openBrace => "Unmatched \\\x7b"
  | .braceContent => "Invalid content of \\\x7b\\\x7d"
  | .rangeEnd => "Invalid range end"
  | .nothingToRepeat => "Invalid preceding regular expression"
  | .tooBig => "Regular expression too big"
  | .closeParen => "Unmatched ) or \\)"
  | .bareClass => "character class syntax is [[:space:]], not [:space:]"

/-- What becomes of an operator that has nothing to work on. -/
inductive Idle where
  | literal
  | skipped
  | refused
  deriving DecidableEq, Repr

/-- A way of writing patterns. -/
structure Dialect where
  extended : Bool := false
  idle : Idle := .literal
  /-- Braces that have nothing to work on are refused. -/
  idleBraces : Bool := false
  /-- A second star or brace behind an operator is refused. -/
  single : Bool := false
  /-- Braces that hold no bounds stand for themselves. -/
  looseBraces : Bool := false
  /-- A closing parenthesis without partner stands for itself. -/
  looseParen : Bool := false
  /-- A class of characters needs brackets of its own. -/
  strictClass : Bool := true
  /-- A range whose end comes before its beginning is empty. -/
  emptyRanges : Bool := false

inductive Operator where
  | star
  | plus
  | query
  | brace
  deriving DecidableEq, Repr

/-- What is written in a pattern. -/
inductive Sign where
  | char (char : Char)
  | any
  | set (set : CharSet)
  | edge (edge : Edge)
  | again (number : Nat)
  | bracket
  | left
  | right
  | or
  | repeated (operator : Operator) (char : Char)
  | caret
  | dollar
  | loneBackslash
  deriving DecidableEq, Repr

/-- What a character behind a backslash is, apart from operators. -/
def escaped (char : Char) : Sign :=
  match char with
  | 'w' => .set CharSet.word
  | 'W' => .set CharSet.word.complement
  | 's' => .set CharSet.blank
  | 'S' => .set CharSet.blank.complement
  | 'b' => .edge .wordEdge
  | 'B' => .edge .noWordEdge
  | '<' => .edge .wordStart
  | '>' => .edge .wordEnd
  | '\x60' => .edge .textStart
  | '\x27' => .edge .textEnd
  | char =>
      if '1' ≤ char && char ≤ '9' then .again (char.toNat - '0'.toNat) else .char char

/-- The operator that a character is, with a backslash in the basic way of writing. -/
def operator? (char : Char) : Option Sign :=
  match char with
  | '(' => some .left
  | ')' => some .right
  | '|' => some .or
  | '\x7b' => some (.repeated .brace char)
  | '+' => some (.repeated .plus char)
  | '?' => some (.repeated .query char)
  | _ => none

def sign? (extended : Bool) (text : Chars) : Option (Sign × Chars) :=
  match text with
  | [] => none
  | '\\' :: [] => some (.loneBackslash, [])
  | '\\' :: char :: rest =>
      match operator? char with
      | some sign => some (if extended then .char char else sign, rest)
      | none => some (escaped char, rest)
  | '*' :: rest => some (.repeated .star '*', rest)
  | '.' :: rest => some (.any, rest)
  | '[' :: rest => some (.bracket, rest)
  | '^' :: rest => some (.caret, rest)
  | '$' :: rest => some (.dollar, rest)
  | char :: rest =>
      match extended, operator? char with
      | true, some sign => some (sign, rest)
      | _, _ => some (.char char, rest)

/-! ## Brackets -/

/-- What is written between brackets: a character that a range may begin or end with, or a class. -/
inductive Element where
  | char (char : Char)
  | ranges (ranges : List (Char × Char))

/-- The text up to two characters, and what follows them. -/
def untilPair? (first second : Char) : Chars -> Option (Chars × Chars)
  | a :: b :: rest =>
      if a = first && b = second then some ([], rest)
      else (untilPair? first second (b :: rest)).map (fun (text, rest) => (a :: text, rest))
  | _ => none

def element (text : Chars) : Except Failure (Element × Chars) :=
  match text with
  | [] => .error .openBracket
  | '[' :: ':' :: rest =>
      match untilPair? ':' ']' rest with
      | none => .error .openBracket
      | some (name, rest) =>
          match classRanges? (String.ofList name) with
          | some ranges => .ok (.ranges ranges, rest)
          | none => .error .className
  | '[' :: mark :: rest =>
      if mark = '=' || mark = '.' then
        match untilPair? mark ']' rest with
        | none => .error .openBracket
        | some ([char], rest) => .ok (.char char, rest)
        | some _ => .error .collation
      else .ok (.char '[', mark :: rest)
  | char :: rest => .ok (.char char, rest)

def readElements (dialect : Dialect) :
    Nat -> List (Char × Char) -> Bool -> Chars -> Except Failure (List (Char × Char) × Chars)
  | 0, _, _, _ => .error .openBracket
  | bound + 1, ranges, first, text => do
      match text with
      | [] => throw .openBracket
      | ']' :: rest => if !first then return (ranges, rest)
      | _ => pure ()
      let (found, rest) ← element text
      match found, rest with
      | .ranges more, rest => readElements dialect bound (more ++ ranges) false rest
      | .char start, '-' :: next :: after =>
          if next = ']' then readElements dialect bound ((start, start) :: ranges) false rest
          else
            let (found, rest) ← element (next :: after)
            match found with
            | .ranges _ => throw .rangeEnd
            | .char stop =>
                if stop < start then
                  if dialect.emptyRanges then readElements dialect bound ranges false rest
                  else throw .rangeEnd
                else readElements dialect bound ((start, stop) :: ranges) false rest
      | .char start, rest => readElements dialect bound ((start, start) :: ranges) false rest

def readBracket (dialect : Dialect) (text : Chars) : Except Failure (CharSet × Chars) := do
  let (negated, body) :=
    match text with
    | '^' :: rest => (true, rest)
    | rest => (false, rest)
  if body.isEmpty then throw .invalid
  let (ranges, rest) ← readElements dialect (body.length + 1) [] true body
  let inside := body.take (body.length - rest.length - 1)
  if dialect.strictClass && !negated && 2 ≤ inside.length && inside.head? = some ':' &&
      inside.getLast? = some ':' then
    throw .bareClass
  return ({ negated, ranges }, rest)

/-! ## Bounds -/

def maxBound : Nat := 32767

/-- What braces hold. -/
inductive Bounds where
  | bounds (least : Nat) (most : Option Nat) (rest : Chars)
  | failure (failure : Failure)

def readBounds (extended : Bool) (text : Chars) : Bounds :=
  let digits := text.takeWhile Char.isDigit
  let rest := text.drop digits.length
  let close? (rest : Chars) : Option Chars :=
    match extended, rest with
    | true, '\x7d' :: rest => some rest
    | false, '\\' :: '\x7d' :: rest => some rest
    | _, _ => none
  let finish (least : Nat) (most : Option Nat) (rest : Chars) : Bounds :=
    match close? rest with
    | some rest =>
        let isWrong := (most.map (fun most => decide (most < least))).getD false
        if isWrong then .failure .braceContent
        else if maxBound < max least (most.getD 0) then .failure .tooBig
        else .bounds least most rest
    | none => .failure (if rest.isEmpty then .openBrace else .braceContent)
  match rest with
  | ',' :: after =>
      let others := after.takeWhile Char.isDigit
      let most := if others.isEmpty then none else some (Chars.digitsValue others)
      finish (Chars.digitsValue digits) most (after.drop others.length)
  | rest =>
      if digits.isEmpty then .failure (if rest.isEmpty then .openBrace else .braceContent)
      else finish (Chars.digitsValue digits) (some (Chars.digitsValue digits)) rest

/-! ## Patterns -/

structure Reading where
  rest : Chars
  opened : Nat := 0
  closed : List Nat := []
  /-- How many groups are open. -/
  depth : Nat := 0
  /-- What may have been meant otherwise, latest first. -/
  warnings : List String := []

abbrev Read := StateT Reading (Except Failure)

def peek? (dialect : Dialect) : Read (Option (Sign × Chars)) :=
  return sign? dialect.extended (← get).rest

/-- Goes on behind a sign. -/
def goTo (rest : Chars) : Read Unit := modify (fun reading => { reading with rest })

/-- Whether a dollar sign stands at the end of a line in the basic way of writing. -/
def endsHere (rest : Chars) : Bool :=
  match rest with
  | [] => true
  | '\\' :: char :: _ => char = ')' || char = '|'
  | _ => false

def repeated (pattern : Pattern) (operator : Operator) : Pattern :=
  match operator with
  | .plus => .many pattern 1 none
  | .query => .many pattern 0 (some 1)
  | _ => .many pattern 0 none

/-- Reads the operators behind a pattern.  `again` says that there was one. -/
def readOperators (dialect : Dialect) (pattern : Pattern) : Nat -> Bool -> Read Pattern
  | 0, _ => return pattern
  | bound + 1, again => do
      match ← peek? dialect with
      | some (.repeated operator _, rest) =>
          if again && dialect.single && (operator = .star || operator = .brace) then
            throw .nothingToRepeat
          else if operator = .brace then
            match readBounds dialect.extended rest with
            | .bounds least most rest =>
                goTo rest
                readOperators dialect (.many pattern least most) bound true
            | .failure failure =>
                if dialect.looseBraces && failure != .tooBig &&
                    !(rest.contains '\x7d' && failure = .braceContent &&
                      (rest.takeWhile (fun char => char != '\x7d')).all (fun char =>
                        char.isDigit || char = ',')) then
                  return pattern
                else throw failure
          else
            goTo rest
            readOperators dialect (repeated pattern operator) bound true
      | _ => return pattern

/-- What is said of an operator that has nothing to work on. -/
def warning (operator : Operator) (char : Char) : String :=
  let shown := if operator = .brace then "\x7b...\x7d" else String.ofList [char]
  shown ++ " at start of expression"

mutual

def readAlternatives (dialect : Dialect) : Nat -> Read Pattern
  | 0 => return .empty
  | bound + 1 => do
      let first ← readBranch dialect bound true
      match ← peek? dialect with
      | some (.or, rest) =>
          goTo rest
          return .either first (← readAlternatives dialect bound)
      | _ => return first

/-- Reads what follows one another.  `start` says that nothing to work on stands before. -/
def readBranch (dialect : Dialect) : Nat -> Bool -> Read Pattern
  | 0, _ => return .empty
  | bound + 1, start => do
      let add (pattern : Pattern) (start : Bool) : Read Pattern := do
        return .both pattern (← readBranch dialect bound start)
      let work (pattern : Pattern) : Read Pattern := do
        add (← readOperators dialect pattern bound false) false
      match ← peek? dialect with
      | none | some (.or, _) => return .empty
      | some (.right, rest) =>
          if 0 < (← get).depth then return .empty
          else if dialect.looseParen then
            goTo rest
            work (.one (CharSet.single ')'))
          else throw .closeParen
      | some (.loneBackslash, _) => throw .trailingBackslash
      | some (.char char, rest) =>
          goTo rest
          work (.one (CharSet.single char))
      | some (.any, rest) =>
          goTo rest
          work (.one CharSet.any)
      | some (.set set, rest) =>
          goTo rest
          work (.one set)
      | some (.bracket, rest) =>
          let (set, rest) ← readBracket dialect rest
          goTo rest
          work (.one set)
      | some (.again number, rest) =>
          if !(← get).closed.contains number then throw .backReference
          goTo rest
          work (.again number)
      | some (.edge edge, rest) =>
          goTo rest
          add (.edge edge) true
      | some (.caret, rest) =>
          goTo rest
          if dialect.extended || start then add (.edge .lineStart) true
          else work (.one (CharSet.single '^'))
      | some (.dollar, rest) =>
          goTo rest
          if dialect.extended || endsHere rest then add (.edge .lineEnd) true
          else work (.one (CharSet.single '$'))
      | some (.left, rest) =>
          let number := (← get).opened + 1
          modify (fun reading =>
            { reading with rest, opened := number, depth := reading.depth + 1 })
          let inner ← readAlternatives dialect bound
          match ← peek? dialect with
          | some (.right, rest) =>
              modify (fun reading =>
                { reading with
                  rest
                  closed := number :: reading.closed
                  depth := reading.depth - 1 })
              work (.group number inner)
          | _ => throw .openParen
      | some (.repeated operator char, rest) =>
          let isLiteral :=
            !start || (operator = .brace && dialect.looseBraces &&
              match readBounds dialect.extended rest with
              | .bounds .. => false
              | .failure _ => true)
          let isRefused :=
            dialect.idle = .refused || (operator = .brace && dialect.idleBraces)
          if isLiteral || (dialect.idle = .literal && !isRefused) then
            goTo rest
            work (.one (CharSet.single char))
          else if isRefused then throw .nothingToRepeat
          else
            modify (fun reading =>
              { reading with warnings := warning operator char :: reading.warnings })
            let _ ← readOperators dialect .empty bound false
            readBranch dialect bound true

end

/-- A pattern, and what may have been meant otherwise. -/
structure Compiled where
  pattern : Pattern
  groups : Nat
  warnings : List String := []

def read (dialect : Dialect) (text : Chars) : Except Failure Compiled := do
  let (pattern, reading) ←
    (readAlternatives dialect (2 * text.length + 2)).run { rest := text }
  if !reading.rest.isEmpty then throw .closeParen
  return { pattern, groups := reading.opened, warnings := reading.warnings.reverse }

/-- The way in which expressions compare texts. -/
def Dialect.plain : Dialect := { strictClass := false, emptyRanges := true }

/-- The ways of writing patterns that lines are searched for. -/
def Dialect.search (extended : Bool) : Dialect :=
  if extended then { extended, idle := .skipped, looseBraces := true, looseParen := true } else {}

/-- The ways of writing patterns in scripts that edit texts. -/
def Dialect.edit (extended : Bool) : Dialect :=
  if extended then { extended, idle := .refused } else { idleBraces := true, single := true }

end Regex
end Machine
end AstLink
