import AstLink.Log.Field
import AstLink.Log.Level
import AstLink.Text.Blank
import AstLink.Text.Utf8

namespace AstLink
namespace Log

/-!
Directives.  A filter is written as a list of directives `target[span{field}]=level`, any part of
which may be missing.

A directive that names no span, and no value for its field, is a *rule* about events: it speaks
about those whose target begins with its own and that carry its field.  The other directives ask for
spans, which are not used here, so they speak about no event.

A directive is scanned with the blanks at its ends left out, but its pieces are cut from the text
as it was written, at the byte offsets that the scan found.  Leading blanks therefore shift every
piece, and trailing blanks belong to the last one.  A shift can put an end of a piece inside a
character.  Such a piece is no text at all, so reading breaks down there and then, whatever else is
wrong with the directive further on.
-/

structure Directive where
  target : Option String
  span : Option String
  field : Option Field
  level : Level
  deriving DecidableEq, Repr

structure Rule where
  target : Option String
  field : Option String
  level : Level
  deriving DecidableEq, Repr

namespace Directive

/-- Why a directive cannot be read. -/
inductive Defect where
  | malformed
  /-- One of its pieces would begin or end inside a character. -/
  | splitCharacter
  deriving DecidableEq, Repr

/-- Where a scan stands.  An offset is that of the piece which is being scanned. -/
inductive Place where
  | start
  | target
  | span (offset : Nat)
  | field (offset : Nat)
  | afterField
  | afterBracket
  | level (offset : Nat)

structure Scan where
  place : Place := .start
  target : Option String := none
  span : Option String := none
  field : Option Field := none

/-- Whether a directive may begin with a character, an opening bracket apart. -/
def mayBegin (char : Char) : Bool :=
  char = '-' || char = ':' || char = '_' || Text.isAlphanumeric char

/-- Whether a byte offset lies between two characters, or at an end. -/
def isBoundary (written : Bytes) (offset : Nat) : Bool :=
  match written.drop offset with
  | [] => true
  | byte :: _ => !(0x80 ≤ byte && byte ≤ 0xbf)

/-- The text from one byte offset up to another.  Even an empty piece must not lie inside a
character. -/
def piece (written : Bytes) (low high : Nat) : Except Defect (List Char) :=
  if isBoundary written low && isBoundary written high then
    .ok (Text.Utf8.lossy ((written.drop low).take (high - low)))
  else .error .splitCharacter

def rest (written : Bytes) (low : Nat) : Except Defect (List Char) :=
  piece written low written.length

def Scan.step (values : Values) (written : Bytes) (scan : Scan) (offset : Nat) (char : Char) :
    Except Defect Scan :=
  match scan.place with
  | .start =>
      if char = '[' then .ok { scan with place := .span (offset + 1) }
      else if mayBegin char then .ok { scan with place := .target }
      else .error .malformed
  | .target =>
      if char = '=' then do
        let target ← piece written 0 offset
        return { scan with place := .level (offset + 1), target := some (String.ofList target) }
      else if char = '[' then do
        let target ← piece written 0 offset
        return { scan with place := .span (offset + 1), target := some (String.ofList target) }
      else .ok scan
  | .span low =>
      if char = ']' then do
        let span ← piece written low offset
        return { scan with place := .afterBracket, span := some (String.ofList span) }
      else if char = '\x7b' then do
        let span ← piece written low offset
        let span := if span.isEmpty then none else some (String.ofList span)
        return { scan with place := .field (offset + 1), span := span }
      else .ok scan
  | .field low =>
      if char = '\x7d' then do
        match Field.ofText? values (← piece written low offset) with
        | some field => return { scan with place := .afterField, field := some field }
        | none => throw .malformed
      else .ok scan
  | .afterField =>
      if char = ']' then .ok { scan with place := .afterBracket } else .error .malformed
  | .afterBracket =>
      if char = '=' then .ok { scan with place := .level (offset + 1) } else .error .malformed
  | .level _ => .ok scan

/-- Scans characters, the first of which stands at a byte offset. -/
def Scan.run (values : Values) (written : Bytes) (scan : Scan) (offset : Nat) :
    List Char -> Except Defect Scan
  | [] => .ok scan
  | char :: chars => do
      let next ← scan.step values written offset char
      next.run values written (offset + char.utf8Size) chars

/-- The directive of a finished scan.  Without a level it lets everything through; a word that
stands alone is a level if it names one. -/
def Scan.directive (written : Bytes) (scan : Scan) : Except Defect Directive :=
  match scan.place with
  | .target => do
      let text ← rest written 0
      match Level.ofText? text with
      | some level => return ⟨none, none, none, level⟩
      | none => return ⟨some (String.ofList text), none, none, .trace⟩
  | .level low => do
      let text ← rest written low
      if text.isEmpty then return ⟨scan.target, scan.span, scan.field, .trace⟩
      match Level.ofText? text with
      | some level => return ⟨scan.target, scan.span, scan.field, level⟩
      | none => throw .malformed
  | .afterBracket => .ok ⟨scan.target, scan.span, scan.field, .trace⟩
  | _ => .error .malformed

def ofBytes (values : Values) (written : Bytes) : Except Defect Directive := do
  match Text.Utf8.decode? written with
  | none => throw .malformed
  | some text =>
      let scan ← ({} : Scan).run values written 0 (Text.trim text)
      scan.directive written

/-! ## Order and text -/

def hasValue (directive : Directive) : Bool := directive.field.any (fun field => field.value.isSome)

def rule? (directive : Directive) : Option Rule :=
  if directive.span.isNone && !directive.hasValue then
    some ⟨directive.target, directive.field.map Field.name, directive.level⟩
  else none

/-- The most detailed level that may be asked for.  Where a value is asked for, nothing can be left
out before the value is known. -/
def ceiling (directive : Directive) : Level :=
  if directive.hasValue then .trace else directive.level

/-- Whether a directive asks for spans.  Its field, if it has one, is looked for there as well. -/
def isDynamic (directive : Directive) : Bool :=
  directive.span.isSome || directive.field.isSome

/-- How specific one directive is compared with another: by the length of the target, by having a
span, by having a field.  The texts themselves decide last, so that only directives about the same
target, span and field are level. -/
def specificity (values : Values) (a b : Directive) : Ordering :=
  (compare (a.target.map String.utf8ByteSize) (b.target.map String.utf8ByteSize)).then <|
  (compare a.span.isSome b.span.isSome).then <|
  (compare a.field.isSome b.field.isSome).then <|
  (compare a.target b.target).then <|
  (compare a.span b.span).then <|
  match a.field, b.field with
  | some first, some second => first.order values second
  | _, _ => .eq

def render (values : Values) (directive : Directive) : String :=
  let field :=
    match directive.field with
    | some field => "\x7b" ++ field.render values ++ "\x7d"
    | none => ""
  let bracket :=
    if directive.isDynamic then "[" ++ directive.span.getD "" ++ field ++ "]" else ""
  let subject := directive.target.getD "" ++ bracket
  let named := directive.target.isSome || directive.isDynamic
  if named then subject ++ "=" ++ directive.level.name else directive.level.name

end Directive

namespace Rule

def directive (rule : Rule) : Directive :=
  ⟨rule.target, none, rule.field.map (fun name => ⟨name, none⟩), rule.level⟩

def specificity (a b : Rule) : Ordering :=
  (compare (a.target.map String.utf8ByteSize) (b.target.map String.utf8ByteSize)).then <|
  (compare a.field.isSome b.field.isSome).then <|
  (compare a.target b.target).then <|
  compare a.field b.field

end Rule

end Log
end AstLink
