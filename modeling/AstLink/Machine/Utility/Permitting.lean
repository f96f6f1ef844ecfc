import AstLink.Machine.Permission
import AstLink.Machine.Utility.Files

namespace AstLink
namespace Machine
namespace Utility
namespace Permitting

/-!
`chmod`, which sets the modes of files.  A word that begins with a hyphen and a letter of a mode is a
mode, not an option.
-/

/-- How modes are set. -/
structure Manner where
  changes : List Permission.Change
  deep : Bool
  silent : Bool
  /-- Whether every file is spoken of, or only one whose mode is another now. -/
  verbose : Bool
  telling : Bool
  /-- Whether it is spoken of when a mask leaves more than was to be expected. -/
  surprised : Bool
  mask : Nat

/-- A mode in base eight and as letters. -/
def described (mode : Nat) : Chars :=
  Permission.octal mode ++ " (".toList ++ Permission.row mode ++ [')']

/-- Tells what became of a mode. -/
def report (manner : Manner) (path : Chars) (old new : Nat) : Task Unit := do
  let start := "mode of ".toList ++ marked path
  if old != new then
    if manner.verbose || manner.telling then
      Task.line
        (start ++ " changed from ".toList ++ described old ++ " to ".toList ++ described new)
  else if manner.verbose then Task.line (start ++ " retained as ".toList ++ described old)

/-- Sets the mode of what is at a path, and of what lies within it if that is asked for.  `first`
says that the path was named by whoever called. -/
def setMode (manner : Manner) : Nat -> Bool -> Chars -> Task Unit
  | 0, _, _ => return
  | bound + 1, first, path => do
      match ← Work.inspect path first with
      | .error obstacle =>
          if !manner.silent then
            if (← Work.inspect path false).isOk then
              reject ("cannot operate on dangling symlink ".toList ++ marked path)
            else cannot "cannot access" path obstacle
          if manner.verbose then Task.line (marked path ++ " could not be accessed".toList)
          Task.setStatus 1
      | .ok { sort := .link, .. } =>
          if manner.verbose then
            Task.line
              ("neither symbolic link ".toList ++ marked path ++
                " nor referent has been changed".toList)
      | .ok info =>
          let isDirectory := info.sort = .directory
          let after (mask : Nat) : Nat :=
            Permission.Change.applyAll manner.changes isDirectory mask info.mode
          let (new, expected) := (after manner.mask, after 0)
          let _ ← Work.request (.changeMode path new)
          report manner path info.mode new
          if manner.surprised && Permission.without new expected != 0 then
            reject
              (shownName path ++ ": new permissions are ".toList ++ Permission.row new ++
                ", not ".toList ++ Permission.row expected)
          if manner.deep && isDirectory then
            match ← Work.names path with
            | .ok names =>
                for name in names do
                  setMode manner bound false (under path name)
            | .error obstacle => cannot "cannot access" path obstacle

/-- The letters of options that stand in one word with others. -/
def plainLetters : Chars := ['R', 'c', 'f', 'v']

/-- The letters with which a mode begins behind a hyphen. -/
def modeLetters : Chars := "rwxXstugoa,+=01234567".toList

/-- Whether a word is a mode: it begins with a hyphen, and the first of its letters that is not that
of an option is that of a mode. -/
def isModeWord (word : Chars) : Bool :=
  match word with
  | '-' :: letters =>
      match letters.dropWhile plainLetters.contains with
      | letter :: _ => modeLetters.contains letter
      | [] => false
  | _ => false

/-- The modes among words, and the other words with the options that stand before modes. -/
def separate : List Chars -> List Chars × List Chars
  | [] => ([], [])
  | ['-', '-'] :: words => ([], ['-', '-'] :: words)
  | word :: words =>
      let (modes, others) := separate words
      if isModeWord word then
        let letters := (word.drop 1).takeWhile plainLetters.contains
        (word :: modes, if letters.isEmpty then others else ('-' :: letters) :: others)
      else (modes, word :: others)

/-- The changes that give a file the mode of another. -/
def changesLike (path : Chars) : Task (List Permission.Change) := do
  match ← Work.inspect path true with
  | .ok info =>
      let all := Permission.allBits
      return [⟨'=', all, .bits info.mode, all⟩]
  | .error obstacle =>
      Task.fail 1
        ("failed to get attributes of ".toList ++ marked path ++ ": ".toList ++
          obstacle.text.toList)

def changesOf (mode : Chars) : Task (List Permission.Change) := do
  match Permission.Change.all? mode with
  | some changes => return changes
  | none => Task.misuse 1 ("invalid mode: ".toList ++ marked mode)

/-- Sets the modes of files. -/
def run (words : List Chars) : Task Unit := do
  let flags :=
    [flag 'R' ["recursive"], flag 'f' ["silent", "quiet"], flag 'v' ["verbose"],
      flag 'c' ["changes"], given '\x01' ["reference"], flag '\x02' ["preserve-root"],
      flag '\x03' ["no-preserve-root"]]
  let (modes, others) := separate words
  let arguments ← readArguments { flags } others
  let like := arguments.value? '\x01'
  if like.isSome && !modes.isEmpty then
    Task.misuse 1 "cannot combine mode and --reference options".toList
  let given : Option Chars := if modes.isEmpty then none else some (Chars.join [','] modes)
  let (mode, paths) : Option Chars × List Chars :=
    match like.isSome, given, arguments.operands with
    | true, _, operands => (none, operands)
    | _, some mode, operands => (some mode, operands)
    | _, none, [] => (none, [])
    | _, none, mode :: operands => (some mode, operands)
  if paths.isEmpty then
    match mode, given with
    | some mode, none => Task.misuse 1 ("missing operand after ".toList ++ marked mode)
    | _, _ => Task.misuse 1 "missing operand".toList
  let changes ←
    match like, mode with
    | some path, _ => changesLike path
    | none, mode => changesOf (mode.getD [])
  let mask := (← Work.expectNumber (.mask none)).toOption.getD 0
  let manner : Manner :=
    { changes
      deep := arguments.has 'R'
      silent := arguments.has 'f'
      verbose := arguments.last? "vc" = some 'v'
      telling := arguments.has 'c'
      surprised := given.isSome
      mask }
  for path in paths do
    setMode manner maxDepth true path

end Permitting
end Utility
end Machine
end AstLink
