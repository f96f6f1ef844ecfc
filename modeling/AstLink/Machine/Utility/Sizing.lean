import AstLink.Machine.Utility.Files
import AstLink.Machine.Utility.Viewing

namespace AstLink
namespace Machine
namespace Utility
namespace Sizing

/-!
`truncate`, which gives files a size: it cuts them off, or puts NULs behind them.
-/

/-- How a size comes from the one before. -/
inductive Relation where
  | exactly
  | more
  | less
  | atMost
  | atLeast
  | multipleBelow
  | multipleAbove
  deriving DecidableEq, Repr

structure Size where
  relation : Relation
  value : Nat

def Size.apply (size : Size) (before : Nat) : Nat :=
  let value := size.value
  match size.relation with
  | .exactly => value
  | .more => before + value
  | .less => before - value
  | .atMost => min before value
  | .atLeast => max before value
  | .multipleBelow => before / value * value
  | .multipleAbove => (before + value - 1) / value * value

/-- The relations by their signs, those aside that are signs of numbers as well. -/
def relations : List (Char × Relation) :=
  [('<', .atMost), ('>', .atLeast), ('/', .multipleBelow), ('%', .multipleAbove)]

def readSize (text : Chars) : Task Size := do
  let text := text.dropWhile Chars.isSpace
  let named := text.head?.bind (fun sign => relations.lookup sign)
  let number := if named.isSome then (text.drop 1).dropWhile Chars.isSpace else text
  let (relation, digits) : Option Relation × Chars :=
    match number with
    | '+' :: digits => (some .more, digits)
    | '-' :: digits => (some .less, digits)
    | digits => (none, digits)
  if named.isSome && relation.isSome then
    Task.misuse 1 "multiple relative modifiers specified".toList
  let relation := (named.orElse (fun _ => relation)).getD .exactly
  match if (digits.head?.map Char.isDigit).getD false then count? digits else none with
  | none => Task.fail 1 ("Invalid number: ".toList ++ marked number)
  | some value =>
      if (relation = .multipleBelow || relation = .multipleAbove) && value = 0 then
        Task.fail 1 "division by zero".toList
      return ⟨relation, value⟩

/-- Gives a file a size.  `base` is the size that stands for the one before. -/
def resize (size : Size) (creates : Bool) (base : Option Nat) (path : Chars) : Task Unit := do
  match ← Work.openFile path { writes := true, creates } with
  | .error obstacle =>
      if creates || obstacle != .noEntry then
        reject
          ("cannot open ".toList ++ marked path ++ " for writing: ".toList ++
            obstacle.text.toList)
  | .ok descriptor =>
      let before :=
        match (← (Work.inspectOpen descriptor : Task _)).toOption with
        | some info => info.size
        | none => 0
      let wanted := size.apply (base.getD before)
      match ← Work.expectDone (.truncate descriptor wanted) with
      | .ok _ => pure ()
      | .error obstacle =>
          reject
            ("failed to truncate ".toList ++ marked path ++ " at ".toList ++ Chars.ofNat wanted ++
              " bytes: ".toList ++ obstacle.text.toList)
      Work.close descriptor

/-- Gives files a size. -/
def run (words : List Chars) : Task Unit := do
  let flags :=
    [flag 'c' ["no-create"], flag 'o' ["io-blocks"], given 'r' ["reference"], given 's' ["size"]]
  let arguments ← readArguments { flags } words
  let size ← (arguments.value? 's').mapM readSize
  let reference := arguments.value? 'r'
  if size.isNone && reference.isNone then
    Task.misuse 1 "you must specify either \x27--size\x27 or \x27--reference\x27".toList
  let isRelative := size.all (fun size => size.relation != .exactly)
  if reference.isSome && !isRelative then
    Task.misuse 1 "you must specify a relative \x27--size\x27 with \x27--reference\x27".toList
  if arguments.has 'o' && size.isNone then
    Task.misuse 1 "\x27--io-blocks\x27 was specified but \x27--size\x27 was not".toList
  needOperands arguments.operands "missing file operand"
  let base ← reference.mapM (fun path => do
    match ← Work.inspect path true with
    | .ok info => return info.size
    | .error obstacle =>
        Task.fail 1 ("cannot stat ".toList ++ marked path ++ ": ".toList ++ obstacle.text.toList))
  let unit := if arguments.has 'o' then 4096 else 1
  let size := size.getD ⟨.more, 0⟩
  let size := { size with value := size.value * unit }
  for path in arguments.operands do
    resize size (!arguments.has 'c') base path

end Sizing
end Utility
end Machine
end AstLink
