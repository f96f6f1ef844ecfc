import AstLink.Machine.Shell.Session

namespace AstLink
namespace Machine
namespace Shell
namespace Action

/-!
Descriptors that stand for something else for a while.  What one stood for is kept under a number of
which started programs know nothing, and is put back at the end.
-/

def leastKept : Nat := 10

/-- Keeps what a descriptor stands for, and closes it. -/
def save (descriptor : Nat) : Action Saved := do
  match ← Work.request (.duplicateAbove descriptor leastKept) with
  | .number kept =>
      Work.close descriptor
      return .under kept
  | _ => return .closed

/-- Puts back what descriptors stood for.  With `lasting` it is only no longer kept. -/
def takeBack (lasting : Bool) : List (Nat × Saved) -> Action Unit
  | [] => return
  | (descriptor, saved) :: others => do
      match saved with
      | .closed => if !lasting then Work.close descriptor
      | .under kept =>
          if !lasting then
            let _ ← Work.request (.duplicate kept descriptor)
          Work.close kept
      takeBack lasting others

/-- Ends the redirections of commands until only so many commands have any. -/
def endDownTo (count : Nat) (lasting : Bool) : Nat -> Action Unit
  | 0 => return
  | bound + 1 => do
      match (← get).saved with
      | entries :: others =>
          if count < others.length + 1 then
            modify (fun session => { session with saved := others })
            takeBack lasting entries
            endDownTo count false bound
          else return
      | [] => return

end Action
end Shell
end Machine
end AstLink
