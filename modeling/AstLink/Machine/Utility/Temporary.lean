import AstLink.Machine.Utility.Files

namespace AstLink
namespace Machine
namespace Utility
namespace Temporary

/-!
`mktemp`, which makes files and directories under names that nobody else uses.
-/

/-- The characters of which such names consist. -/
def letters : Chars :=
  "abcdefghijklmnopqrstuvwxyzABCDEFGHIJKLMNOPQRSTUVWXYZ0123456789".toList

def lettersOf (number : Nat) : Nat -> Chars
  | 0 => []
  | count + 1 =>
      letters.getD (number % letters.length) 'x' :: lettersOf (number / letters.length) count

/-- A large number that has no factor in common with the numbers of names. -/
def stride : Nat := 2862933555777941757

/-- The beginning of a template, how many letters are to be found, and the end. -/
def parts (template : Chars) (ending : Chars) : Chars × Nat × Chars :=
  let reversed := template.reverse
  let after := if ending.isEmpty then reversed.takeWhile (fun char => char != 'X') else []
  let marks := (reversed.drop after.length).takeWhile (fun char => char = 'X')
  let start := (reversed.drop (after.length + marks.length)).reverse
  (start, marks.length, after.reverse ++ ending)

/-- What is made. -/
structure Wish where
  directory : Bool
  dry : Bool
  quiet : Bool
  template : Chars
  start : Chars
  count : Nat
  ending : Chars

def tryNames (wish : Wish) (seed : Nat) : Nat -> Task Unit
  | 0 => Task.stop 1
  | bound + 1 => do
      let path := wish.start ++ lettersOf ((seed + bound) * stride) wish.count ++ wish.ending
      let result : Except Obstacle Unit ←
        if wish.dry then
          match ← Work.inspect path false with
          | .ok _ => pure (.error .isThere)
          | .error _ => pure (.ok ())
        else if wish.directory then
          match ← Work.expectDone (.makeDirectory path 0o700) with
          | .ok _ => pure (.ok ())
          | .error obstacle => pure (.error obstacle)
        else
          match ← Work.openFile path
              { reads := true, writes := true, creates := true, exclusive := true, mode := 0o600 } with
          | .ok descriptor =>
              Work.close descriptor
              pure (.ok ())
          | .error obstacle => pure (.error obstacle)
      match result with
      | .ok _ => Task.line path
      | .error .isThere => tryNames wish seed bound
      | .error obstacle =>
          if wish.quiet then Task.stop 1
          let what := if wish.directory then "directory" else "file"
          Task.fail 1
            (("failed to create " ++ what ++ " via template ").toList ++ marked wish.template ++
              ": ".toList ++ obstacle.text.toList)

/-- Makes a file or a directory. -/
def run (words : List Chars) : Task Unit := do
  let flags :=
    [flag 'd' ["directory"], flag 'u' ["dry-run"], flag 'q' ["quiet"], flag 't' [],
      { letter := '\x01', names := ["tmpdir"], giving := .wordIfJoined }, given 'p' [],
      given '\x02' ["suffix"], flag 'V' []]
  let arguments ← readArguments { flags } words
  let given ←
    match arguments.operands with
    | [] => pure none
    | [template] => pure (some template)
    | _ => Task.misuse 1 "too many templates".toList
  let template := given.getD "tmp.XXXXXXXXXX".toList
  let suffix := arguments.value? '\x02'
  if suffix.isSome && template.getLast? != some 'X' then
    Task.fail 1 ("with --suffix, template ".toList ++ marked template ++ " must end in X".toList)
  let (start, count, ending) := parts template (suffix.getD [])
  if ending.contains '/' && suffix.isSome then
    Task.fail 1
      ("invalid suffix ".toList ++ marked ending ++ ", contains directory separator".toList)
  if count < 3 then Task.fail 1 ("too few X\x27s in template ".toList ++ marked template)
  let setting := (((← get).environment.lookup "TMPDIR".toList).filter (fun text => !text.isEmpty))
  let usual := setting.getD "/tmp".toList
  let asked : Option Chars :=
    match arguments.last? "p\x01" with
    | some letter =>
        some (((arguments.value? letter).filter (fun text => !text.isEmpty)).getD usual)
    | none => none
  let directory ←
    if arguments.has 't' then
      if template.contains '/' then
        Task.fail 1
          ("invalid template, ".toList ++ marked template ++
            ", contains directory separator".toList)
      pure (some (setting.getD (asked.getD usual)))
    else if asked.isSome then
      if template.head? = some '/' then
        Task.fail 1
          ("invalid template, ".toList ++ marked template ++
            "; with --tmpdir, it may not be absolute".toList)
      pure asked
    else pure (if given.isNone then some usual else none)
  let place (path : Chars) : Chars :=
    (directory.map (fun directory => under directory path)).getD path
  let seed := ((← Work.expectNumber .clock).toOption.getD 0) * 65536 +
    ((← Work.expectNumber .self).toOption.getD 0)
  tryNames
    { directory := arguments.has 'd', dry := arguments.has 'u', quiet := arguments.has 'q'
      template := place template ++ suffix.getD [], start := place start, count, ending }
    seed 100

end Temporary
end Utility
end Machine
end AstLink
