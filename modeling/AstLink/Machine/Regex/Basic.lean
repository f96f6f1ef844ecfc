import AstLink.Machine.Chars

namespace AstLink
namespace Machine
namespace Regex

/-!
Patterns: what texts look like that are searched for.
-/

/-- A set of characters: those in some ranges, or all others. -/
structure CharSet where
  negated : Bool := false
  ranges : List (Char × Char)
  deriving DecidableEq, Repr

namespace CharSet

def single (char : Char) : CharSet := { ranges := [(char, char)] }

def any : CharSet := { negated := true, ranges := [] }

def word : CharSet := { ranges := [('0', '9'), ('A', 'Z'), ('_', '_'), ('a', 'z')] }

def blank : CharSet := { ranges := [('\t', '\r'), (' ', ' ')] }

def complement (set : CharSet) : CharSet := { set with negated := !set.negated }

def inRanges (set : CharSet) (char : Char) : Bool :=
  set.ranges.any (fun (first, last) => first ≤ char && char ≤ last)

/-- Whether a character is in a set.  With `folded` its other case is as good. -/
def holds (folded : Bool) (set : CharSet) (char : Char) : Bool :=
  let found :=
    set.inRanges char ||
      (folded && (set.inRanges char.toLower || set.inRanges char.toUpper))
  found != set.negated

end CharSet

def classRanges? (name : String) : Option (List (Char × Char)) :=
  match name with
  | "alpha" => some [('A', 'Z'), ('a', 'z')]
  | "digit" => some [('0', '9')]
  | "alnum" => some [('0', '9'), ('A', 'Z'), ('a', 'z')]
  | "upper" => some [('A', 'Z')]
  | "lower" => some [('a', 'z')]
  | "space" => some [('\t', '\r'), (' ', ' ')]
  | "blank" => some [('\t', '\t'), (' ', ' ')]
  | "punct" => some [('!', '/'), (':', '@'), ('[', '\x60'), ('\x7b', '~')]
  | "print" => some [(' ', '~')]
  | "graph" => some [('!', '~')]
  | "cntrl" => some [('\x00', '\x1f'), ('\x7f', '\x7f')]
  | "xdigit" => some [('0', '9'), ('A', 'F'), ('a', 'f')]
  | _ => none

/-- A place between two characters. -/
inductive Edge where
  | lineStart
  | lineEnd
  | textStart
  | textEnd
  | wordStart
  | wordEnd
  | wordEdge
  | noWordEdge
  deriving DecidableEq, Repr

inductive Pattern where
  | empty
  | one (set : CharSet)
  | edge (edge : Edge)
  | group (number : Nat) (inner : Pattern)
  | again (number : Nat)
  | both (first second : Pattern)
  | either (first second : Pattern)
  /-- As often as a bound allows, which is none if there is none. -/
  | many (inner : Pattern) (least : Nat) (most : Option Nat)
  deriving Repr

namespace Pattern

def looksBack : Pattern -> Bool
  | .again _ => true
  | .group _ inner | .many inner _ _ => inner.looksBack
  | .both first second | .either first second => first.looksBack || second.looksBack
  | _ => false

def ofText : Chars -> Pattern
  | [] => .empty
  | char :: rest => .both (.one (CharSet.single char)) (ofText rest)

end Pattern

end Regex
end Machine
end AstLink
