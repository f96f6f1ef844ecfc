import AstLink.Log.Directive
import AstLink.Log.Event
import AstLink.Log.Table

namespace AstLink
namespace Log

/-!
Filters.  A filter is a list of directives, written with commas between them.  It is applied as a
whole or not at all: if it is not text, or if one directive of it is malformed, the filter `warn`
stands in for it.  The directives are read in order and the first defect settles the matter, so a
malformed directive also keeps a later one from being cut inside a character.  Where such a cut is
reached, there is no filter at all.

Rules are kept apart from the directives that ask for spans, each list sorted from the most specific
entry.  The first rule that applies to an event decides about it.
-/

def settingName : Bytes := Text.bytes "AST_MERGE_LOG"

structure Filter where
  statics : List Rule := []
  dynamics : List Directive := []
  /-- The most detailed level that any directive asked for, replaced ones included. -/
  maxLevel : Level := .off
  deriving Repr

namespace Filter

def comma : UInt8 := 0x2c

/-- Adds a directive.  A rule with a field asks for spans as well. -/
def add (values : Values) (filter : Filter) (directive : Directive) : Filter where
  statics := directive.rule?.elim filter.statics (fun rule =>
    Table.insert Rule.specificity rule filter.statics)
  dynamics :=
    if directive.isDynamic then
      Table.insert (Directive.specificity values) directive filter.dynamics
    else filter.dynamics
  maxLevel := filter.maxLevel.max directive.ceiling

/-- The filter made of directives, given in the order in which they were written. -/
def ofDirectives (values : Values) (directives : List Directive) : Filter :=
  directives.foldl (add values) {}

/-- The filter where none is given, or none that can be read: the one that is written `warn`. -/
def standard : Filter := { statics := [⟨none, none, .warn⟩], maxLevel := .warn }

/-- The directives of a written filter, or the first defect in it.  Nothing need stand between two
commas. -/
def directives (values : Values) (written : Bytes) :
    Except Directive.Defect (List Directive) := do
  match Text.Utf8.decode? written with
  | none => throw .malformed
  | some _ =>
      let parts := (Bytes.splitOn comma written).filter (fun part => !part.isEmpty)
      parts.mapM (Directive.ofBytes values)

/-- The filter in force, given what is written in the environment, if anything is.  There is none
if a directive would have to be cut inside a character. -/
def ofSetting? (setting : Option Bytes) (values : Values := .words) : Option Filter :=
  match setting.map (directives values) with
  | none | some (.error .malformed) => some standard
  | some (.error .splitCharacter) => none
  | some (.ok directives) => some (ofDirectives values directives)

def render (filter : Filter) (values : Values := .words) : String :=
  let entries := filter.statics.map Rule.directive ++ filter.dynamics
  String.intercalate "," (entries.map (Directive.render values))

def applies (rule : Rule) (event : Event) : Bool :=
  let target := (rule.target.getD "").toList
  let fields := rule.field.toList
  target.isPrefixOf Event.target.toList && fields.all (fun name => event.fieldNames.contains name)

def shows (filter : Filter) (event : Event) : Bool :=
  match filter.statics.find? (fun rule => applies rule event) with
  | some rule => rule.level.admits Event.level
  | none => false

end Filter

end Log
end AstLink
