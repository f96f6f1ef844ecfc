namespace AstLink
namespace Log

/-!
Levels of detail.  A filter lets through everything up to its level; `off` lets nothing through.
-/

inductive Level where
  | off
  | error
  | warn
  | info
  | debug
  | trace
  deriving DecidableEq, Repr

namespace Level

/-- The levels, from the least detail to the most. -/
def all : List Level := [.off, .error, .warn, .info, .debug, .trace]

/-- The place of a level in that order, which is also its number in a filter. -/
def rank : Level -> Nat
  | .off => 0
  | .error => 1
  | .warn => 2
  | .info => 3
  | .debug => 4
  | .trace => 5

/-- Whether a filter at level `a` lets through what is of level `b`. -/
def admits (a b : Level) : Bool := b.rank ≤ a.rank

def max (a b : Level) : Level := if a.rank < b.rank then b else a

def name : Level -> String
  | .off => "off"
  | .error => "error"
  | .warn => "warn"
  | .info => "info"
  | .debug => "debug"
  | .trace => "trace"

/-- The value of a row of decimal digits, at least one of them. -/
def number? (digits : List Char) : Option Nat :=
  if !digits.isEmpty && digits.all Char.isDigit then
    some (digits.foldl (fun value digit => value * 10 + (digit.toNat - '0'.toNat)) 0)
  else none

/-- The level that a text names: by its number, which may carry a plus sign, or by its name in
capital or small letters. -/
def ofText? (text : List Char) : Option Level :=
  let digits :=
    match text with
    | '+' :: rest => rest
    | text => text
  match number? digits with
  | some number => all[number]?
  | none => all.find? (fun level => level.name.toList == text.map Char.toLower)

end Level

end Log
end AstLink
