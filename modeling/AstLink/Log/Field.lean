import AstLink.Text.Alphanumeric

namespace AstLink
namespace Log

/-!
Fields that directives name.  A field may be given a value, after an equals sign.

A value is a truth value, a number or a pattern.  Patterns have a language of their own, and which
texts are patterns is not decided here; nor is how values compare and how they are shown.  `Values`
stands for whatever decides it.
-/

/-- How the values of fields are read. -/
structure Values where
  accepts : String -> Bool
  order : String -> String -> Ordering
  shown : String -> String

/-- Values that are words.  A word is a pattern that stands for itself. -/
def Values.words : Values where
  accepts text := text.toList.all Text.isAlphanumeric
  order := compare
  shown := id

structure Field where
  name : String
  value : Option String
  deriving DecidableEq, Repr

namespace Field

/-- The field that is written, unless its value is none.  A second equals sign ends the value, and
what is behind it does not count. -/
def ofText? (values : Values) (text : List Char) : Option Field :=
  let other (char : Char) : Bool := char != '='
  let name := String.ofList (text.takeWhile other)
  match text.dropWhile other with
  | [] => if text.isEmpty then none else some ⟨name, none⟩
  | _ :: behind =>
      let value := String.ofList (behind.takeWhile other)
      if values.accepts value then some ⟨name, some value⟩ else none

def order (values : Values) (a b : Field) : Ordering :=
  (compare a.value.isSome b.value.isSome).then <|
  (compare a.name b.name).then <|
  match a.value, b.value with
  | some first, some second => values.order first second
  | _, _ => .eq

def render (values : Values) (field : Field) : String :=
  match field.value with
  | some value => field.name ++ "=" ++ values.shown value
  | none => field.name

end Field

end Log
end AstLink
