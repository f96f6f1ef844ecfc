import AstLink.Log.Level
import AstLink.Status

namespace AstLink
namespace Log

/-!
What a run reports about itself.  There are three events, all of them for people who look for the
cause of a failed build, so they are logged at the level `debug` and under one target.
-/

inductive Event where
  | running (command target : String) (libraries : Nat) (placeholder : String)
  | started (process : Nat)
  /-- The compiler ended, and so many lines of its output were forwarded. -/
  | exited (lines : Nat) (status : WaitStatus)
  deriving DecidableEq, Repr

namespace Event

def target : String := "ast_merge::runner"

def level : Level := .debug

def message : Event -> String
  | .running .. => "running ast merge"
  | .started _ => "compiler started"
  | .exited .. => "compiler exited"

/-- The fields of an event with their texts.  A process is shown as `name` says. -/
def fields (name : Nat -> String) : Event -> List (String × String)
  | .running command target libraries placeholder =>
      [("command", command), ("target", target), ("libraries", toString libraries),
        ("placeholder", placeholder)]
  | .started process => [("pid", name process)]
  | .exited lines status =>
      [("lines", toString lines), ("status", status.render),
        ("success", if status.isSuccess then "true" else "false")]

/-- The names of an event's fields; the message counts as one. -/
def fieldNames (event : Event) : List String :=
  "message" :: (event.fields toString).map Prod.fst

def render (clock : String) (name : Nat -> String) (event : Event) : String :=
  let fields := (event.fields name).map (fun (field, text) => " " ++ field ++ "=" ++ text)
  clock ++ " DEBUG " ++ event.message ++ String.join fields ++ "\n"

end Event

end Log
end AstLink
