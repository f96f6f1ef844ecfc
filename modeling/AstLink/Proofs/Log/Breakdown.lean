import AstLink.Log.Filter
import AstLink.Proofs.Lists

namespace AstLink
namespace Log
namespace Filter

/-!
Where there is no filter at all.

Directives are read in order, and the first that cannot be read settles what becomes of the filter.
So reading breaks down exactly where the first unreadable directive is one that would be cut inside
a character; any other defect leads to the standard filter.
-/

/-- The directives of a written filter, before any of them is read. -/
def parts (written : Bytes) : List Bytes :=
  (Bytes.splitOn comma written).filter (fun part => !part.isEmpty)

theorem directives_of_undecodable (values : Values) {written : Bytes}
    (undecodable : Text.Utf8.decode? written = none) :
    directives values written = .error .malformed := by
  rw [directives, undecodable]
  rfl

theorem directives_of_text (values : Values) {written : Bytes}
    (decoded : Text.Utf8.decode? written ≠ none) :
    directives values written = (parts written).mapM (Directive.ofBytes values) := by
  rcases Option.ne_none_iff_exists'.mp decoded with ⟨text, shape⟩
  rw [directives, shape]
  rfl

/-- Whether reading a filter breaks down: it is written as text, and the first of its directives
that cannot be read would be cut inside a character. -/
def BreaksDown (values : Values) (setting : Option Bytes) : Prop :=
  ∃ written, setting = some written ∧ Text.Utf8.decode? written ≠ none ∧
    ∃ before part after, parts written = before ++ part :: after ∧
      (∀ earlier ∈ before, ∃ directive, Directive.ofBytes values earlier = .ok directive) ∧
      Directive.ofBytes values part = .error .splitCharacter

theorem ofSetting?_eq_none_iff (values : Values) (setting : Option Bytes) :
    ofSetting? setting values = none ↔ BreaksDown values setting := by
  have reading (written : Bytes) :
      directives values written = .error .splitCharacter ↔ Text.Utf8.decode? written ≠ none ∧
        (parts written).mapM (Directive.ofBytes values) = .error .splitCharacter := by
    by_cases undecodable : Text.Utf8.decode? written = none
    · rw [directives_of_undecodable values undecodable]
      exact iff_of_false (fun impossible => nomatch impossible) (fun both => both.1 undecodable)
    · rw [directives_of_text values undecodable]
      exact (and_iff_right undecodable).symm
  cases setting with
  | none => simp [ofSetting?, BreaksDown]
  | some written =>
      have broken : ofSetting? (some written) values = none ↔
          directives values written = .error .splitCharacter := by
        unfold ofSetting?
        cases outcome : directives values written with
        | ok read => simp [outcome]
        | error defect => cases defect <;> simp [outcome]
      rw [broken, reading, Lists.mapM_eq_error_iff]
      constructor
      · intro both
        exact ⟨written, rfl, both⟩
      · rintro ⟨other, equal, both⟩
        cases equal
        exact both

end Filter
end Log
end AstLink
