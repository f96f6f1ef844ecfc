import AstLink.Fault
import AstLink.Status

namespace AstLink

/-!
Failures of the wrapper itself.  A compiler that ran and exited with a code other than zero is not
among them: its code is passed on.
-/

/-- What kept a merge from being run to its end. -/
inductive MergeError where
  | launch (program : String) (source : Fault)
  | pipe (source : Fault)
  /-- The compiler's output could not be read, or could not be passed on. -/
  | relay (source : Fault)
  | wait (source : Fault)
  deriving DecidableEq, Repr

namespace MergeError

def source : MergeError -> Fault
  | .launch _ fault => fault
  | .pipe fault => fault
  | .relay fault => fault
  | .wait fault => fault

def message : MergeError -> String
  | .launch program fault => "failed to launch '" ++ program ++ "': " ++ fault.message
  | .pipe fault => "failed to create output pipe: " ++ fault.message
  | .relay fault => "failed to relay compiler output: " ++ fault.message
  | .wait fault => "failed to wait for compiler: " ++ fault.message

def exitCode : MergeError -> Int32
  | .launch .. | .pipe _ | .relay _ | .wait _ => WaitStatus.failure

end MergeError

end AstLink
