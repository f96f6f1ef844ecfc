import AstLink.Machine.Permission
import AstLink.Machine.Utility.Files

namespace AstLink
namespace Machine
namespace Utility
namespace Making

/-!
`mkdir`, `rmdir`, `mkfifo` and `touch`, which make directories, remove empty ones, and make pipes
and files.
-/

/-! ## Directories -/

/-- How directories are made. -/
structure Manner where
  /-- Whether those on the way are made as well. -/
  deep : Bool
  verbose : Bool
  mode : Option (List Permission.Change)

def tell (manner : Manner) (path : Chars) : Task Unit := do
  if manner.verbose then
    Task.line ((← get).name ++ ": created directory ".toList ++ marked path)

def onTheWay (path : Chars) : List Chars :=
  let names := Chars.splitOn '/' (Chars.withoutSlashes path)
  let ways := (List.range (names.length - 1)).map (fun count =>
    Chars.join ['/'] (names.take (count + 1)))
  ways.filter (fun way => !(Chars.lastName way).isEmpty && Chars.lastName way != ['.'])

/-- Makes directories where there are none.  The result says whether all are there now. -/
def makeMissing (manner : Manner) : List Chars -> Task Bool
  | [] => return true
  | path :: paths => do
      match ← Work.expectDone (.makeDirectory path 0o777) with
      | .ok _ =>
          tell manner path
          makeMissing manner paths
      | .error .isThere =>
          match ← Work.inspect path true with
          | .ok { sort := .directory, .. } => makeMissing manner paths
          | .ok _ =>
              cannot "cannot create directory" path .noDirectory
              return false
          | .error _ =>
              cannot "cannot create directory" path .isThere
              return false
      | .error obstacle =>
          cannot "cannot create directory" path obstacle
          return false

def make (manner : Manner) (path : Chars) : Task Unit := do
  if manner.deep && !path.isEmpty then
    if !(← makeMissing manner (onTheWay path)) then return
  match ← Work.expectDone (.makeDirectory path 0o777) with
  | .ok _ =>
      tell manner path
      if let some changes := manner.mode then
        let mask := (← Work.expectNumber (.mask none)).toOption.getD 0
        let mode := Permission.Change.applyAll changes true mask 0o777
        let _ ← Work.request (.changeMode path mode)
  | .error obstacle =>
      let isFine := manner.deep && obstacle = .isThere && (← isDirectory path true)
      if !isFine then cannot "cannot create directory" path obstacle

def makeDirectories (words : List Chars) : Task Unit := do
  let flags :=
    [flag 'p' ["parents"], flag 'v' ["verbose"], given 'm' ["mode"], flag 'Z' [],
      { letter := '\x01', names := ["context"], giving := .wordIfJoined }]
  let arguments ← readArguments { flags } words
  needOperands arguments.operands "missing operand"
  let mode ←
    match arguments.value? 'm' with
    | none => pure none
    | some word =>
        match Permission.Change.all? word with
        | some changes => pure (some changes)
        | none => Task.fail 1 ("invalid mode ".toList ++ marked word)
  for path in arguments.operands do
    make { deep := arguments.has 'p', verbose := arguments.has 'v', mode } path

/-- The directories in which a path lies, the nearest first. -/
def parents (path : Chars) : List Chars :=
  let names := Chars.splitOn '/' (Chars.withoutSlashes path)
  let paths := (List.range (names.length - 1)).map (fun count =>
    Chars.join ['/'] (names.take (names.length - 1 - count)))
  paths.map (fun path => if path.isEmpty then ['/'] else path)

def removeEmpty (quiet verbose : Bool) (complaint : String) : List Chars -> Task Unit
  | [] => return
  | path :: paths => do
      if verbose then
        Task.line ((← get).name ++ ": removing directory, ".toList ++ marked path)
      match ← Work.expectDone (.removeDirectory path) with
      | .ok _ => removeEmpty quiet verbose "failed to remove directory" paths
      | .error obstacle =>
          if quiet && obstacle = .notEmpty then return
          else if obstacle = .noDirectory && path.getLast? = some '/' &&
              (← isDirectory path true) then
            reject ((complaint ++ " ").toList ++ marked path ++ ": Symbolic link not followed".toList)
          else cannot complaint path obstacle

def removeDirectories (words : List Chars) : Task Unit := do
  let flags :=
    [flag 'p' ["parents", "path"], flag 'v' ["verbose"],
      flag '\x01' ["ignore-fail-on-non-empty"]]
  let arguments ← readArguments { flags } words
  needOperands arguments.operands "missing operand"
  for path in arguments.operands do
    removeEmpty (arguments.has '\x01') (arguments.has 'v') "failed to remove"
      (path :: (if arguments.has 'p' then parents path else []))

/-! ## Pipes -/

def makePipes (words : List Chars) : Task Unit := do
  let flags :=
    [given 'm' ["mode"], flag 'Z' [],
      { letter := '\x01', names := ["context"], giving := .wordIfJoined }]
  let arguments ← readArguments { flags } words
  needOperands arguments.operands "missing operand"
  let changes ←
    match arguments.value? 'm' with
    | none => pure none
    | some word =>
        match Permission.Change.all? word with
        | some changes => pure (some changes)
        | none => Task.fail 1 "invalid mode".toList
  for path in arguments.operands do
    match ← Work.expectDone (.makePipe path 0o666) with
    | .ok _ =>
        if let some changes := changes then
          let mask := (← Work.expectNumber (.mask none)).toOption.getD 0
          let _ ← Work.request
            (.changeMode path (Permission.Change.applyAll changes false mask 0o666))
    | .error obstacle => cannot "cannot create fifo" path obstacle

/-! ## Files -/

/-- Whether a text is a time in digits: a month, a day, an hour and a minute, with a year before
them or not and seconds behind them or not. -/
def isTime (text : Chars) : Bool :=
  let (digits, seconds) := (Chars.cut? '.' text).getD (text, "00".toList)
  let last := digits.drop (digits.length - 8)
  let part (place most : Nat) : Bool := Chars.digitsValue ((last.drop place).take 2) ≤ most
  Chars.isNumber digits && [8, 10, 12].contains digits.length && Chars.isNumber seconds &&
    seconds.length = 2 && part 0 12 && part 2 31 && part 4 23 && part 6 59 &&
    0 < Chars.digitsValue (last.take 2) && 0 < Chars.digitsValue ((last.drop 2).take 2)

/-- Makes files, or sets the time of their last change.  A time that is given counts as long past.
-/
def touch (words : List Chars) : Task Unit := do
  let flags :=
    [flag 'a' [], flag 'm' [], flag 'c' ["no-create"], flag 'h' ["no-dereference"], flag 'f' [],
      given 'd' ["date"], given 't' [], given 'r' ["reference"], given '\x01' ["time"]]
  let arguments ← readArguments { flags } words
  if let some word := arguments.value? '\x01' then
    let _ ← choose 1 "--time".toList [["atime", "access", "use"], ["mtime", "modify"]] word
  if let some text := arguments.value? 't' then
    if !isTime text then Task.fail 1 ("invalid date format ".toList ++ marked text)
  let others := if arguments.has 'r' || arguments.has 'd' then 1 else 0
  if 1 < others + (if arguments.has 't' then 1 else 0) then
    Task.misuse 1 "cannot specify times from more than one source".toList
  let time ←
    match arguments.value? 'r' with
    | some path =>
        match ← Work.inspect path true with
        | .ok info => pure (some info.changed)
        | .error obstacle =>
            Task.fail 1
              ("failed to get attributes of ".toList ++ marked path ++ ": ".toList ++
                obstacle.text.toList)
    | none =>
        match arguments.value? 'd' with
        | none => pure (if arguments.has 't' then some 0 else none)
        | some date =>
            if date.any Char.isDigit then pure (some 0)
            else if date.isEmpty || ["now", "today"].any (fun word => date == word.toList) then
              pure none
            else Task.fail 1 ("invalid date format ".toList ++ marked date)
  needOperands arguments.operands "missing file operand"
  for path in arguments.operands do
    if path != ['-'] then
      let creates := !(arguments.has 'c') && !(arguments.has 'h')
      let opening ←
        if creates then Work.openFile path { writes := true, creates := true } else pure (.ok 0)
      if creates then
        if let .ok descriptor := opening then Work.close descriptor
      match ← Work.expectDone (.changeTime path time), opening with
      | .ok _, _ => pure ()
      | .error obstacle, .error .isDirectory => cannot "setting times of" path obstacle
      | .error _, .error obstacle => cannot "cannot touch" path obstacle
      | .error obstacle, .ok _ =>
          if !(arguments.has 'c' && obstacle = .noEntry) then
            cannot "setting times of" path obstacle

end Making
end Utility
end Machine
end AstLink
