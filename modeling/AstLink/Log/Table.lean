namespace AstLink
namespace Log

/-!
Sorted tables.  The entries stand from the greatest to the least, and no two of them are level.
-/

/-- Puts an entry in its place.  It drives out the one that it is level with, if there is one. -/
def Table.insert {X : Type} (order : X -> X -> Ordering) (entry : X) : List X -> List X
  | [] => [entry]
  | other :: others =>
      match order entry other with
      | .gt => entry :: other :: others
      | .eq => entry :: others
      | .lt => other :: insert order entry others

end Log
end AstLink
