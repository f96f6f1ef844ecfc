import AstLink.Machine.Utility.Console

namespace AstLink
namespace Machine
namespace Utility
namespace Identity

/-!
Programs that tell for whom and on what they run: `whoami`, `id`, `uname` and `tty`.  There is one
user on the machine, and no terminal.
-/

def user : Chars := "root".toList

def refuseOperand {α : Type} (status : Nat) (operand : Chars) : Task α :=
  Task.misuse status ("extra operand ".toList ++ marked operand)

def showUser (words : List Chars) : Task Unit := do
  let arguments ← readArguments { flags := [] } words
  if let extra :: _ := arguments.operands then refuseOperand 1 extra
  Task.line user

def showTerminal (words : List Chars) : Task Unit := do
  let arguments ← readArguments { flags := [flag 's' ["silent", "quiet"]], status := 2 } words
  if let extra :: _ := arguments.operands then refuseOperand 2 extra
  if !arguments.has 's' then Task.line "not a tty".toList
  Task.setStatus 1

/-- Tells the numbers and names of users and groups. -/
def showIdentity (words : List Chars) : Task Unit := do
  let flags :=
    [flag 'u' ["user"], flag 'g' ["group"], flag 'G' ["groups"], flag 'n' ["name"],
      flag 'r' ["real"], flag 'z' ["zero"], flag 'a' [], flag 'Z' ["context"]]
  let arguments ← readArguments { flags } words
  let choices := "ugG".toList.filter arguments.has
  if arguments.has 'Z' then
    Task.fail 1 "--context (-Z) works only on an SELinux-enabled kernel".toList
  if 1 < choices.length then Task.fail 1 "cannot print \"only\" of more than one choice".toList
  if choices.isEmpty && (arguments.has 'n' || arguments.has 'r') then
    Task.fail 1 "cannot print only names or real IDs in default format".toList
  if choices.isEmpty && arguments.has 'z' then
    Task.fail 1 "option --zero not permitted in default format".toList
  let ending := if arguments.has 'z' then '\x00' else '\n'
  let shown :=
    if choices.isEmpty then "uid=0(root) gid=0(root) groups=0(root)".toList
    else if arguments.has 'n' then user
    else ['0']
  for name in (if arguments.operands.isEmpty then [user] else arguments.operands) do
    if [user, ['0'], "+0".toList].contains name then Task.say (shown ++ [ending])
    else
      Task.complain (marked name ++ ": no such user".toList)
      Task.setStatus 1

/-- What is known about the system, in the order in which it is shown. -/
def facts : List (Char × String) :=
  [('s', "Linux"), ('n', "localhost"), ('r', "6.0.0"), ('v', "#1 SMP"), ('m', "x86_64"),
    ('p', "x86_64"), ('i', "x86_64"), ('o', "GNU/Linux")]

/-- Tells what system this is.  When all is shown, what mostly is not known is left out. -/
def showSystem (words : List Chars) : Task Unit := do
  let flags :=
    [flag 'a' ["all"], flag 's' ["kernel-name", "sysname"], flag 'n' ["nodename"],
      flag 'r' ["kernel-release", "release"], flag 'v' ["kernel-version"], flag 'm' ["machine"],
      flag 'p' ["processor"], flag 'i' ["hardware-platform"], flag 'o' ["operating-system"]]
  let arguments ← readArguments { flags } words
  if let extra :: _ := arguments.operands then refuseOperand 1 extra
  let isShown (letter : Char) : Bool :=
    if arguments.has 'a' then true
    else if arguments.options.isEmpty then letter = 's'
    else arguments.has letter
  let shown := (facts.filter (fun fact => isShown fact.1)).map (fun fact => fact.2.toList)
  Task.line (Chars.join [' '] shown)

end Identity
end Utility
end Machine
end AstLink
