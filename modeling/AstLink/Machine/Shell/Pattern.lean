import AstLink.Machine.Chars

namespace AstLink
namespace Machine
namespace Shell

/-!
Patterns.  `*` stands for any text, `?` for any character, and `[...]` for one of some characters.
A sign that was quoted stands for itself, so a pattern is a list of characters each of which knows
whether it is active.
-/

/-- A character of a pattern, and whether it may have a meaning beyond itself. -/
structure Glyph where
  char : Char
  active : Bool
  deriving DecidableEq, Repr

namespace Pattern

def text (pattern : List Glyph) : Chars := pattern.map Glyph.char

/-- A pattern in which active backslashes have been heeded: the character behind one stands for
itself. -/
def heed : List Glyph -> List Glyph
  | [] => []
  | [glyph] => [glyph]
  | glyph :: next :: rest =>
      if glyph.active && glyph.char = '\\' then { next with active := false } :: heed rest
      else glyph :: heed (next :: rest)

def isSign (glyph : Glyph) (sign : Char) : Bool := glyph.active && glyph.char = sign

/-- The classes of characters that brackets know. -/
def classes : List (String × (Char -> Bool)) :=
  [("alnum", Char.isAlphanum), ("alpha", Char.isAlpha),
    ("blank", fun char => char = ' ' || char = '\t'),
    ("cntrl", fun char => char.toNat < 32 || char.toNat = 127), ("digit", Char.isDigit),
    ("graph", fun char => 32 < char.toNat && char.toNat < 127), ("lower", Char.isLower),
    ("print", fun char => 31 < char.toNat && char.toNat < 127),
    ("punct", fun char => 32 < char.toNat && char.toNat < 127 && !char.isAlphanum),
    ("space", Chars.isSpace), ("upper", Char.isUpper),
    ("xdigit", fun char =>
      char.isDigit || ('a' ≤ char && char ≤ 'f') || ('A' ≤ char && char ≤ 'F'))]

/-- The class that stands at the beginning of a text behind `[:`, and what follows it. -/
def class? (text : Chars) : Option ((Char -> Bool) × Nat) := do
  let name := text.takeWhile (fun char => char != ':')
  let members ← classes.lookup (String.ofList name)
  if [':', ']'].isPrefixOf (text.drop name.length) then some (members, name.length + 2) else none

/-- Goes through the items of a bracket, up to the bracket that closes it: whether one of them takes
a character, and what follows.  `first` says that no item has been met yet. -/
def items (char : Char) : Nat -> Bool -> Bool -> List Glyph -> Option (Bool × List Glyph)
  | 0, _, _, _ => none
  | _, _, _, [] => none
  | bound + 1, first, found, item :: rest =>
      if isSign item ']' && !first then some (found, rest)
      else
        let named :=
          match rest with
          | colon :: after =>
              if isSign item '[' && isSign colon ':' then class? (text after) else none
          | [] => none
        match named with
        | some (members, count) =>
            items char bound false (found || members char) (rest.drop (count + 1))
        | none =>
            match rest with
            | dash :: high :: after =>
                if isSign dash '-' && !isSign high ']' then
                  items char bound false (found || (item.char ≤ char && char ≤ high.char)) after
                else items char bound false (found || item.char = char) rest
            | rest => items char bound false (found || item.char = char) rest

/-- Whether a bracket takes a character, and what follows the bracket; nothing if it is not
closed. -/
def bracket? (char : Char) (pattern : List Glyph) : Option (Bool × List Glyph) := do
  match pattern with
  | [] => none
  | first :: rest =>
      if isSign first '!' then
        let (found, after) ← items char (rest.length + 1) true false rest
        return (!found, after)
      else items char (pattern.length + 1) true false pattern

/-- Whether a pattern stands for a text.  `bound` is at least the length of both together. -/
def matchesWithin : Nat -> List Glyph -> Chars -> Bool
  | _, [], text => text.isEmpty
  | 0, _, _ => false
  | bound + 1, glyph :: pattern, text =>
      if isSign glyph '*' then
        matchesWithin bound pattern text ||
          match text with
          | [] => false
          | _ :: text => matchesWithin bound (glyph :: pattern) text
      else
        match text with
        | [] => false
        | char :: text =>
            if isSign glyph '?' then matchesWithin bound pattern text
            else
              match if isSign glyph '[' then bracket? char pattern else none with
              | some (found, after) => found && matchesWithin bound after text
              | none => glyph.char = char && matchesWithin bound pattern text

def matchesText (pattern : List Glyph) (text : Chars) : Bool :=
  matchesWithin (pattern.length + text.length + 1) pattern text

/-- A text without the part at its front, or at its end, that a pattern stands for, that part being
as long or as short as possible. -/
def cut (front longest : Bool) (pattern : List Glyph) (text : Chars) : Chars :=
  let cuts := List.range (text.length + 1)
  let cuts := if longest = front then cuts.reverse else cuts
  let fits (count : Nat) : Bool :=
    matchesText pattern (if front then text.take count else text.drop count)
  match cuts.find? fits with
  | some count => if front then text.drop count else text.take count
  | none => text

end Pattern

end Shell
end Machine
end AstLink
