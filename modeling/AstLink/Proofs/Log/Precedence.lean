import AstLink.Log.Filter
import AstLink.Proofs.Log.Table
import Mathlib.Data.List.Nodup
import Mathlib.Order.Compare

namespace AstLink
namespace Log

/-!
Which rule decides about an event.

A filter keeps its rules in a table that is sorted by how specific they are, so the first that
speaks about an event is the one that prevails among all rules as they were written.  For rules that
name no field this says something about the lengths of their targets (`shows_ofDirectives_iff`), and
where the targets differ, the order in which they were written does not matter
(`ofDirectives_perm`).

A directive that asks for a value is no rule, so it never shows an event
(`shows_ofDirectives_unvalued`).
-/

namespace Rule

/-! ## The order -/

/-- Rules are compared by one key after the other. -/
theorem specificity_eq_compareLex : specificity =
    compareLex (compareOn fun rule => rule.target.map String.utf8ByteSize)
      (compareLex (compareOn fun rule => rule.field.isSome)
        (compareLex (compareOn Rule.target) (compareOn Rule.field))) := rfl

instance : Std.TransCmp specificity :=
  specificity_eq_compareLex ▸ inferInstance

theorem eq_of_specificity {first second : Rule} (level : first.specificity second = .eq) :
    first.target = second.target ∧ first.field = second.field := by
  simp only [specificity, Ordering.then_eq_eq, Std.LawfulEqOrd.compare_eq_iff_eq] at level
  exact level.2.2

/-! ## Rules about a target alone -/

/-- A rule that names no field and no empty target. -/
structure Plain (rule : Rule) : Prop where
  field : rule.field = none
  target : rule.target ≠ some ""

/-- Whether the target of the events begins with that of a rule. -/
def concerns (rule : Rule) : Bool :=
  (rule.target.getD "").toList.isPrefixOf Event.target.toList

/-- The length of a rule's target, where no target is shorter than any. -/
def reach (rule : Rule) : Nat := (rule.target.getD "").utf8ByteSize

theorem concerns_topical : Table.Topical specificity concerns := by
  intro first second level
  rw [concerns, concerns, (eq_of_specificity level).1]

/-- Among the beginnings of one text there are no two of one length. -/
theorem eq_of_prefix_of_utf8ByteSize {first second : String} {whole : List Char}
    (firstBegins : first.toList <+: whole) (secondBegins : second.toList <+: whole)
    (size : first.utf8ByteSize = second.utf8ByteSize) : first = second := by
  have shorter {short long : String} (begins : short.toList <+: long.toList)
      (size : short.utf8ByteSize = long.utf8ByteSize) : short = long := by
    rcases begins with ⟨rest, whole⟩
    have split : long = short ++ String.ofList rest := by
      rw [← String.toList_inj, String.toList_append, String.toList_ofList, whole]
    rw [split, String.utf8ByteSize_append] at size
    have empty : String.ofList rest = "" := String.utf8ByteSize_eq_zero_iff.mp (by omega)
    rw [split, empty, String.append_empty]
  rcases List.prefix_or_prefix_of_prefix firstBegins secondBegins with begins | begins
  · exact shorter begins size
  · exact (shorter begins size.symm).symm

theorem Plain.reach_pos {rule : Rule} (plain : rule.Plain) {target : String}
    (named : rule.target = some target) : 0 < target.utf8ByteSize := by
  apply Nat.pos_of_ne_zero
  intro empty
  rw [String.utf8ByteSize_eq_zero_iff] at empty
  exact plain.target (named.trans (congrArg some empty))

/-- Plain rules that concern the events are compared by the lengths of their targets. -/
theorem Plain.specificity_eq {first second : Rule} (plain : first.Plain) (plain' : second.Plain)
    (relevant : first.concerns = true) (relevant' : second.concerns = true) :
    first.specificity second = compare first.reach second.reach := by
  have begins := List.isPrefixOf_iff_prefix.mp relevant
  have begins' := List.isPrefixOf_iff_prefix.mp relevant'
  unfold specificity reach
  rw [plain.field, plain'.field]
  cases named : first.target with
  | none =>
      cases named' : second.target with
      | none => rfl
      | some target => exact (Nat.compare_eq_lt.mpr (plain'.reach_pos named')).symm
  | some target =>
      cases named' : second.target with
      | none => exact (Nat.compare_eq_gt.mpr (plain.reach_pos named)).symm
      | some target' =>
          rw [named] at begins
          rw [named'] at begins'
          by_cases size : target.utf8ByteSize = target'.utf8ByteSize
          · have same := eq_of_prefix_of_utf8ByteSize begins begins' size
            subst same
            simp only [Option.getD_some, Std.ReflCmp.compare_self, Ordering.then_eq]
          · change (compare target.utf8ByteSize target'.utf8ByteSize).then _ =
              compare target.utf8ByteSize target'.utf8ByteSize
            cases compared : compare target.utf8ByteSize target'.utf8ByteSize with
            | lt => rfl
            | eq => exact absurd (Nat.compare_eq_eq.mp compared) size
            | gt => rfl

/-- Of the rules that concern the events, in the order in which they were written, the last of those
with the longest target. -/
def Decides (rule : Rule) (written : List Rule) : Prop :=
  ∃ before after, written = before ++ rule :: after ∧ rule.concerns = true ∧
    (∀ earlier ∈ before, earlier.concerns = true -> earlier.reach ≤ rule.reach) ∧
    ∀ later ∈ after, later.concerns = true -> later.reach < rule.reach

/-- Among plain rules the one that prevails is the one that decides. -/
theorem prevails_iff_decides {written : List Rule} (plain : ∀ rule ∈ written, rule.Plain)
    (rule : Rule) : Table.Prevails specificity concerns rule written ↔ Decides rule written := by
  have compared {before after : List Rule} (split : written = before ++ rule :: after)
      (relevant : rule.concerns = true) {other : Rule} (member : other ∈ written)
      (relevant' : other.concerns = true) :
      ((other.specificity rule).isLE = true ↔ other.reach ≤ rule.reach) ∧
        (other.specificity rule = .lt ↔ other.reach < rule.reach) := by
    have inside : rule ∈ written := split ▸ List.mem_append_right before List.mem_cons_self
    rw [(plain other member).specificity_eq (plain rule inside) relevant' relevant]
    exact ⟨Nat.isLE_compare, Nat.compare_eq_lt⟩
  refine exists_congr fun before => exists_congr fun after => and_congr_right fun split =>
    and_congr_right fun relevant => and_congr ?_ ?_
  · refine forall_congr' fun other => forall_congr' fun member => forall_congr' fun relevant' => ?_
    exact (compared split relevant (split ▸ List.mem_append_left _ member) relevant').1
  · refine forall_congr' fun other => forall_congr' fun member => forall_congr' fun relevant' => ?_
    exact (compared split relevant
      (split ▸ List.mem_append_right _ (List.mem_cons_of_mem _ member)) relevant').2

end Rule

namespace Directive

/-- A directive that asks for a value says nothing about events. -/
theorem rule?_of_hasValue {directive : Directive} (valued : directive.hasValue = true) :
    directive.rule? = none := by
  rw [rule?, valued, Bool.not_true, Bool.and_false]
  rfl

/-- A rule in the form of a directive is that rule. -/
theorem rule?_directive (rule : Rule) : rule.directive.rule? = some rule := by
  rcases rule with ⟨target, field, level⟩
  cases field <;> rfl

end Directive

/-! ## Filters -/

namespace Filter

/-- A filter that tells no event from another: none of its rules names a field. -/
def ByTarget (filter : Filter) : Prop :=
  ∀ rule ∈ filter.statics, rule.field = none

/-- Whether a filter lets through the level of the events under their target: so says the first of
its rules about that target. -/
def enables (filter : Filter) : Bool :=
  (filter.statics.find? Rule.concerns).any (fun rule => rule.level.admits Event.level)

theorem shows_of_byTarget {filter : Filter} (byTarget : filter.ByTarget) (event : Event) :
    filter.shows event = filter.enables := by
  have same : filter.statics.find? (fun rule => applies rule event) =
      filter.statics.find? Rule.concerns := by
    refine List.find?_congr fun rule member => ?_
    rw [applies, byTarget rule member]
    exact Bool.and_true _
  rw [shows, same, enables]
  cases filter.statics.find? Rule.concerns with
  | none => rfl
  | some rule => rfl

/-- A filter in full: two tables, and the most detailed level that is asked for. -/
theorem ofDirectives_eq (values : Values) (written : List Directive) :
    ofDirectives values written =
      { statics := Table.ofList Rule.specificity (written.filterMap Directive.rule?)
        dynamics :=
          Table.ofList (Directive.specificity values) (written.filter Directive.isDynamic)
        maxLevel := (written.map Directive.ceiling).foldl Level.max .off } := by
  induction written using List.reverseRecOn with
  | nil => rfl
  | append_singleton written last ih =>
      have statics : Table.ofList Rule.specificity ((written ++ [last]).filterMap Directive.rule?) =
          last.rule?.elim (Table.ofList Rule.specificity (written.filterMap Directive.rule?))
            (fun rule => Table.insert Rule.specificity rule
              (Table.ofList Rule.specificity (written.filterMap Directive.rule?))) := by
        rw [List.filterMap_append, List.filterMap_cons]
        cases last.rule? with
        | none => exact congrArg _ (List.append_nil _)
        | some rule => exact Table.ofList_concat _ rule
      have dynamics : Table.ofList (Directive.specificity values)
            ((written ++ [last]).filter Directive.isDynamic) =
          if last.isDynamic then
            Table.insert (Directive.specificity values) last
              (Table.ofList (Directive.specificity values) (written.filter Directive.isDynamic))
          else
            Table.ofList (Directive.specificity values) (written.filter Directive.isDynamic) := by
        rw [List.filter_append, List.filter_singleton]
        cases last.isDynamic with
        | false => exact congrArg _ (List.append_nil _)
        | true => exact Table.ofList_concat _ last
      rw [statics, dynamics, List.map_append, List.foldl_append, ofDirectives, List.foldl_append]
      rw [ofDirectives] at ih
      rw [ih]
      rfl

/-- Directives that ask for a value have no say in which events are shown. -/
theorem shows_ofDirectives_unvalued (values : Values) (written : List Directive) (event : Event) :
    (ofDirectives values (written.filter (fun directive => !directive.hasValue))).shows event =
      (ofDirectives values written).shows event := by
  have rules : (written.filter (fun directive => !directive.hasValue)).filterMap Directive.rule? =
      written.filterMap Directive.rule? := by
    rw [List.filterMap_filter]
    refine List.filterMap_congr fun directive _ => ?_
    cases valued : directive.hasValue with
    | false => rfl
    | true => exact (Directive.rule?_of_hasValue valued).symm
  rw [shows, shows, ofDirectives_eq, ofDirectives_eq, rules]

/-- The standard filter is the one that is written `warn`, however values are read. -/
theorem standard_eq (values : Values) :
    ofSetting? (some (Text.bytes "warn")) values = some standard := rfl

variable {written : List Rule}

theorem ofDirectives_of_plain (values : Values) (plain : ∀ rule ∈ written, rule.Plain) :
    ofDirectives values (written.map Rule.directive) =
      { statics := Table.ofList Rule.specificity written
        dynamics := []
        maxLevel := (written.map Rule.level).foldl Level.max .off } := by
  have statics : (written.map Rule.directive).filterMap Directive.rule? = written := by
    have inverse : Directive.rule? ∘ Rule.directive = some := funext Directive.rule?_directive
    rw [List.filterMap_map, inverse, List.filterMap_some]
  have dynamics : (written.map Rule.directive).filter Directive.isDynamic = [] := by
    rw [List.filter_eq_nil_iff]
    intro directive member
    rcases List.mem_map.mp member with ⟨rule, original, rfl⟩
    rw [Rule.directive, (plain rule original).field]
    exact Bool.false_ne_true
  have ceiling : (written.map Rule.directive).map Directive.ceiling = written.map Rule.level := by
    rw [List.map_map]
    refine List.map_congr_left fun rule member => ?_
    rw [Function.comp_apply, Rule.directive, (plain rule member).field]
    rfl
  rw [ofDirectives_eq, statics, dynamics, ceiling]
  rfl

/-- Levels that let the events through. -/
theorem admits_iff (level : Level) :
    level.admits Event.level = true ↔ level = .debug ∨ level = .trace := by
  cases level <;> simp [Level.admits, Event.level, Level.rank]

/-- A filter of plain rules shows an event just if the rule that decides asks for as much. -/
theorem shows_ofDirectives_iff (values : Values) (plain : ∀ rule ∈ written, rule.Plain)
    (event : Event) :
    (ofDirectives values (written.map Rule.directive)).shows event = true ↔
      ∃ rule : Rule, rule.Decides written ∧ (rule.level = .debug ∨ rule.level = .trace) := by
  have byTarget : (ofDirectives values (written.map Rule.directive)).ByTarget := by
    rw [ofDirectives_of_plain values plain]
    intro rule member
    exact (plain rule (Table.mem_of_mem_ofList member)).field
  rw [shows_of_byTarget byTarget, enables, ofDirectives_of_plain values plain]
  have gives := Table.gives_find?_ofList Rule.concerns_topical written
  simp only [← Rule.prevails_iff_decides plain, ← gives.found]
  cases search : (Table.ofList Rule.specificity written).find? Rule.concerns with
  | none => simp
  | some rule => simp [admits_iff]

theorem max_right_comm (level first second : Level) :
    (level.max first).max second = (level.max second).max first := by
  cases level <;> cases first <;> cases second <;> rfl

/-- The order in which plain rules are written does not matter where their targets differ. -/
theorem ofDirectives_perm (values : Values) {other : List Rule} (same : written.Perm other)
    (plain : ∀ rule ∈ written, rule.Plain) (distinct : (written.map Rule.target).Nodup) :
    ofDirectives values (written.map Rule.directive) =
      ofDirectives values (other.map Rule.directive) := by
  have table : Table.ofList Rule.specificity written = Table.ofList Rule.specificity other := by
    refine same.foldl_eq' (fun first member second member' entries => ?_) []
    by_cases level : first.specificity second = .eq
    · have equal := List.inj_on_of_nodup_map distinct member member'
        (Rule.eq_of_specificity level).1
      rw [equal]
    · exact Table.insert_comm level entries
  have maxLevel := (same.map Rule.level).foldl_eq' (f := Level.max)
    (fun first _ second _ level => max_right_comm level first second) .off
  rw [ofDirectives_of_plain values plain, table, maxLevel,
    ofDirectives_of_plain values fun rule member => plain rule (same.mem_iff.mpr member)]

end Filter
end Log
end AstLink
