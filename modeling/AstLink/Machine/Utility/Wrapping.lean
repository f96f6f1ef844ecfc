import AstLink.Machine.Utility.Launching
import AstLink.Machine.Utility.Numbering
import AstLink.Machine.Utility.Viewing

namespace AstLink
namespace Machine
namespace Utility
namespace Wrapping

/-!
Programs that run another program in another setting: `nohup`, `nice`, `setsid` and `stdbuf`.  On the
machine every process is as important as any other and none has a terminal, so that little changes
for the program.
-/

/-- Runs a command in the place of this program.  `complaint` is said before the name of one that
cannot be run. -/
def runCommand (complaint : Chars -> Chars) (words : List Chars) : Task Unit := do
  let obstacle ← execute words
  Task.complain (complaint (words.headD []) ++ ": ".toList ++ obstacle.text.toList)
  Task.stop (launchStatus obstacle)

def failedToRun (name : Chars) : Chars := "failed to run command ".toList ++ marked name

/-- Runs a command that does not heed the signal that a terminal sends when it is gone. -/
def withoutTerminal (words : List Chars) : Task Unit := do
  let arguments ← readArguments { flags := [], status := 125, mixed := false } words
  if arguments.operands.isEmpty then Task.misuse 125 "missing operand".toList
  let _ ← Work.request (.arrange 1 .ignored)
  runCommand failedToRun arguments.operands

def bareAdjustment? (word : Chars) : Option Chars :=
  match word with
  | '-' :: '-' :: digits => if Chars.isNumber digits then some ('-' :: digits) else none
  | '-' :: '+' :: digits | '-' :: digits => if Chars.isNumber digits then some digits else none
  | _ => none

def withImportance (words : List Chars) : Task Unit := do
  let bare := words.takeWhile (fun word => (bareAdjustment? word).isSome)
  let taking : Taking := { flags := [given 'n' ["adjustment"]], status := 125, mixed := false }
  let arguments ← readArguments taking (words.drop bare.length)
  if let some text := arguments.value? 'n' then
    if (Numbering.integer? text).isNone then
      Task.fail 125 ("invalid adjustment ".toList ++ marked text)
  match arguments.operands with
  | [] =>
      if bare.isEmpty && !arguments.has 'n' then Task.line ['0']
      else Task.misuse 125 "a command must be given with an adjustment".toList
  | operands => runCommand marked operands

def inSession (words : List Chars) : Task Unit := do
  let flags := [flag 'c' ["ctty"], flag 'f' ["fork"], flag 'w' ["wait"]]
  let arguments ← readArguments { flags, mixed := false } words
  if arguments.operands.isEmpty then Task.misuse 1 "no command specified".toList
  let complaint (name : Chars) : Chars := "failed to execute ".toList ++ name
  let run : Task Unit := runCommand complaint arguments.operands
  let status (result : Except Nat Unit) : Ending :=
    match result with
    | .error status => .exit status
    | .ok _ => .exit 0
  if arguments.has 'f' then
    match ← Work.fork run (fun result _ => status result) with
    | .error obstacle => Task.fail 1 ("fork: ".toList ++ obstacle.text.toList)
    | .ok process =>
        if arguments.has 'w' then
          match ← waitForEnd process Work.bound with
          | .exit code => Task.stop code
          | ending => Task.stop ending.code
  else run

/-- Runs a command that keeps back more or less of what it writes. -/
def withBuffers (words : List Chars) : Task Unit := do
  let check (_ : List (Char × Option Chars)) (letter : Char) (value : Option Chars) :
      Task Unit := do
    let text := value.getD []
    if letter = 'i' && text = ['L'] then
      Task.misuse 125 "line buffering stdin is meaningless".toList
    if text != ['L'] && (count? text).isNone then
      Task.fail 125 ("invalid mode ".toList ++ marked text)
  let flags := [given 'i' ["input"], given 'o' ["output"], given 'e' ["error"]]
  let arguments ← readArguments { flags, status := 125, mixed := false, check } words
  if arguments.operands.isEmpty then Task.misuse 125 "missing operand".toList
  if arguments.options.isEmpty then
    Task.misuse 125 "you must specify a buffering mode option".toList
  runCommand failedToRun arguments.operands

end Wrapping
end Utility
end Machine
end AstLink
