import AstLink.Machine.Permission
import AstLink.Machine.Shell.Pattern
import AstLink.Machine.Utility.Files
import AstLink.Machine.Utility.Listing.Layout
import AstLink.Machine.Utility.Sorting.Order

namespace AstLink
namespace Machine
namespace Utility
namespace Listing

/-!
`ls`, which lists files and what lies in directories.
-/

/-- In which order files are listed. -/
inductive Ranking where
  | name
  | none
  | time
  | size
  | ending
  | version
  | width
  deriving DecidableEq, Repr

/-- Which signs behind names say what files are. -/
inductive Signs where
  | none
  /-- For directories. -/
  | slash
  /-- For all but those that can be run. -/
  | kind
  | all
  deriving DecidableEq, Repr

/-- How names are written. -/
inductive Quoting where
  | literal
  /-- In quotation marks if the name would not be read back as one word. -/
  | shell
  /-- In quotation marks. -/
  | shellAlways
  /-- In double quotation marks, with backslashes. -/
  | marks
  /-- With backslashes alone. -/
  | escapes
  /-- In single quotation marks, with backslashes. -/
  | locale
  deriving DecidableEq, Repr

/-- How files are listed. -/
structure Manner where
  hidden : Bool
  dots : Bool
  /-- Whether directories are listed instead of what lies in them. -/
  plain : Bool
  deep : Bool
  follow : Bool
  followNamed : Bool
  /-- Whether links to directories that were named are followed. -/
  enter : Bool
  ranking : Ranking
  reverse : Bool
  /-- Whether directories come first. -/
  grouped : Bool
  layout : Layout
  room : Room
  signs : Signs
  quoting : Quoting
  /-- Whether a question mark stands for what cannot be shown. -/
  veiled : Bool
  /-- Whether sizes are written with units, each a thousand of the next or not. -/
  units : Option Nat
  blocks : Bool
  number : Bool
  context : Bool
  owner : Bool
  group : Bool
  author : Bool
  numeric : Bool
  /-- Patterns of names that are passed over. -/
  ignored : List Chars

/-- A file to be listed. -/
structure Entry where
  name : Chars
  info : Info
  target : Option Chars := none
  /-- What a link leads to. -/
  behind : Option Info := none

/-! ## What is written of a file -/

/-- The sign behind the name of a file that says what it is. -/
def signOf (signs : Signs) (info : Info) : Chars :=
  let beyond := signs = .kind || signs = .all
  match info.sort with
  | .directory => if signs = .none then [] else ['/']
  | .link => if beyond then ['@'] else []
  | .pipe => if beyond then ['|'] else []
  | .device => []
  | .file => if signs = .all && info.mode &&& 0o111 != 0 then ['*'] else []

/-- A name with backslashes before what would be read in another way, and before a mark. -/
def escaped (mark : Char) (name : Chars) : Chars :=
  name.flatMap (fun char =>
    if char = mark || char = '\\' then ['\\', char]
    else if isShown char then [char]
    else controlText char)

def written (manner : Manner) (name : Chars) : Chars :=
  let name :=
    if manner.veiled && manner.quoting = .literal then
      name.map (fun char => if isShown char then char else '?')
    else name
  match manner.quoting with
  | .literal => name
  | .shell => shownName name
  | .shellAlways => marked name
  | .marks => '"' :: escaped '"' name ++ ['"']
  | .escapes => escaped ' ' name
  | .locale => quoted name

def sortLetter (info : Info) : Char :=
  match info.sort with
  | .directory => 'd'
  | .link => 'l'
  | .device => 'c'
  | .pipe => 'p'
  | .file => '-'

/-- How many bytes a file takes up. -/
def roomOf (info : Info) : Nat :=
  match info.sort with
  | .directory => 4096
  | .file => (info.size + 4095) / 4096 * 4096
  | _ => 0

/-- A size with a unit, rounded up: one digit behind the point if there is one before it. -/
def withUnit (base : Nat) (size : Nat) : Chars :=
  let rec go : List Char -> Nat -> Chars
    | [], unit => Chars.ofNat (size / unit)
    | letter :: letters, unit =>
        let tenths := (size * 10 + unit - 1) / unit
        let whole := (size + unit - 1) / unit
        if tenths < 100 then
          Chars.ofNat (tenths / 10) ++ '.' :: Chars.ofNat (tenths % 10) ++ [letter]
        else if whole < base then Chars.ofNat whole ++ [letter]
        else go letters (unit * base)
  if size < base then Chars.ofNat size
  else go [if base = 1000 then 'k' else 'K', 'M', 'G', 'T'] base

def sizeText (manner : Manner) (size : Nat) : Chars :=
  match manner.units with
  | some base => withUnit base size
  | none => Chars.ofNat size

/-- How much room a file takes up, as it is written. -/
def blockText (manner : Manner) (room : Nat) : Chars :=
  match manner.units with
  | some base => withUnit base room
  | none => Chars.ofNat (room / 1024)

def longest (texts : List Chars) : Nat := texts.foldl (fun width text => max width text.length) 0

/-- What stands before the names of entries, all as wide as is needed. -/
def fronts (manner : Manner) (entries : List Entry) : Entry -> Chars :=
  let aligned := manner.layout != .commas
  let column (wanted : Bool) (text : Entry -> Chars) : Entry -> Chars :=
    let width := if aligned then longest (entries.map text) else 0
    fun entry => if wanted then Chars.padLeft ' ' width (text entry) ++ [' '] else []
  let number := column manner.number (fun entry => Chars.ofNat entry.info.identity)
  let blocks := column manner.blocks (fun entry => blockText manner (roomOf entry.info))
  let context := column (manner.context && manner.layout != .long) (fun _ => ['?'])
  fun entry => number entry ++ blocks entry ++ context entry

/-- What is written of entries about their modes, owners, sizes and times. -/
def details (manner : Manner) (entries : List Entry) : Entry -> Chars :=
  let links := longest (entries.map (fun entry => Chars.ofNat entry.info.links))
  let sizes := longest (entries.map (fun entry => sizeText manner entry.info.size))
  let name := if manner.numeric then "0 ".toList else "root ".toList
  fun entry =>
    sortLetter entry.info :: Permission.row entry.info.mode ++ ' ' ::
      Chars.padLeft ' ' links (Chars.ofNat entry.info.links) ++ ' ' ::
      ((if manner.owner then name else []) ++ (if manner.group then name else []) ++
        (if manner.author then name else []) ++ (if manner.context then ['?', ' '] else []) ++
        Chars.padLeft ' ' sizes (sizeText manner entry.info.size) ++ " Jan  1 00:00 ".toList)

def lineOf (manner : Manner) (entry : Entry) : Chars :=
  let name := written manner entry.name
  match manner.layout, entry.target with
  | .long, some target =>
      let sign := (entry.behind.map (signOf manner.signs)).getD []
      name ++ " -> ".toList ++ written manner target ++ sign
  | _, _ => name ++ signOf manner.signs entry.info

/-! ## Orders -/

/-- What stands behind the last dot of a name, with the dot. -/
def endingOf (name : Chars) : Chars :=
  if name.contains '.' then '.' :: (name.reverse.takeWhile (fun char => char != '.')).reverse else []

def inOrder (manner : Manner) (entries : List Entry) : List Entry :=
  let byName := entries.mergeSort (fun a b => Chars.notAfter a.name b.name)
  let sorted :=
    match manner.ranking with
    | .none => entries
    | .name => byName
    | .time => byName.mergeSort (fun a b => b.info.changed ≤ a.info.changed)
    | .size => byName.mergeSort (fun a b => b.info.size ≤ a.info.size)
    | .ending => byName.mergeSort (fun a b => Chars.notAfter (endingOf a.name) (endingOf b.name))
    | .version => entries.mergeSort (fun a b => Sorting.compareNames a.name b.name != .gt)
    | .width => byName.mergeSort (fun a b => a.name.length ≤ b.name.length)
  let sorted := if manner.reverse && manner.ranking != .none then sorted.reverse else sorted
  if manner.grouped then
    let (first, others) := sorted.partition (fun entry => entry.info.sort = .directory)
    first ++ others
  else sorted

/-! ## Lists -/

def list (manner : Manner) (entries : List Entry) : Task Unit := do
  let entries := inOrder manner entries
  let front := fronts manner entries
  let detail := details manner entries
  let isLong := manner.layout = .long
  let lines := entries.map (fun entry =>
    front entry ++ (if isLong then detail entry else []) ++ lineOf manner entry)
  Task.say (manner.layout.lay manner.room lines)

def entryOf? (path name : Chars) (follow : Bool) : Task (Except Obstacle Entry) := do
  match ← Work.inspect path follow with
  | .error obstacle => return .error obstacle
  | .ok info =>
      if info.sort != .link then return .ok { name, info }
      else
        let target := (← Work.expectText (.readLink path)).toOption
        let behind := (← Work.inspect path true).toOption
        return .ok { name, info, target, behind }

def isIgnored (manner : Manner) (name : Chars) : Bool :=
  manner.ignored.any (fun pattern =>
    let glyphs := Shell.Pattern.heed (pattern.map (fun char => ⟨char, true⟩))
    (name.head? != some '.' || pattern.head? = some '.') &&
      Shell.Pattern.matchesText glyphs name)

def entriesOf (manner : Manner) (path : Chars) (names : List Chars) : Task (List Entry) := do
  let all := if manner.dots then ['.'] :: ['.', '.'] :: names else names
  let shown := all.filter (fun name =>
    (manner.hidden || manner.dots || name.head? != some '.') && !isIgnored manner name)
  let mut entries : List Entry := []
  for name in shown do
    let here := under path name
    match ← entryOf? here name manner.follow with
    | .ok entry => entries := entry :: entries
    | .error _ =>
        if let .ok entry ← entryOf? here name false then entries := entry :: entries
  return entries.reverse

/-- Lists what lies in directories, each under a heading if there is to be one, and then what lies
in theirs if that is asked for. -/
def listDirectories (manner : Manner) (headed first : Bool) : Nat -> List Chars -> Task Unit
  | 0, _ => return
  | _, [] => return
  | bound + 1, path :: paths => do
      match ← Work.names path with
      | .error obstacle =>
          Task.complain
            ("cannot open directory ".toList ++ marked path ++ ": ".toList ++
              obstacle.text.toList)
          Task.setStatus 2
          listDirectories manner headed first bound paths
      | .ok names =>
          if headed then
            Task.say ((if first then [] else ['\n']) ++ written manner path ++ [':', '\n'])
          let entries ← entriesOf manner path names
          if manner.layout = .long || manner.blocks then
            let total := (entries.map (fun entry => roomOf entry.info)).sum
            Task.say
              ("total ".toList ++ blockText manner total ++ [manner.room.ending])
          list manner entries
          let below :=
            if manner.deep then
              (inOrder manner entries).filterMap (fun entry =>
                if entry.info.sort = .directory && !isDots entry.name then
                  some (under path entry.name)
                else none)
            else []
          listDirectories manner headed false bound (below ++ paths)

def listAll (manner : Manner) (paths : List Chars) : Task Unit := do
  let mut files : List Entry := []
  let mut directories : List Entry := []
  for path in paths do
    let direct ← entryOf? path path (manner.follow || manner.followNamed)
    let there := (← Work.inspect path true).toOption
    let isBelow := manner.enter && there.any (fun info => info.sort = .directory)
    let found ← if isBelow then entryOf? path path true else pure direct
    match found with
    | .error obstacle =>
        Task.complain
          ("cannot access ".toList ++ marked path ++ ": ".toList ++ obstacle.text.toList)
        Task.setStatus 2
    | .ok entry =>
        if entry.info.sort = .directory && !manner.plain then directories := entry :: directories
        else files := entry :: files
  list manner files.reverse
  let inside := (inOrder manner directories.reverse).map Entry.name
  let headed := 1 < paths.length || manner.deep
  listDirectories manner headed files.isEmpty Work.bound inside

/-! ## Options -/

/-- The words for when something is done. -/
def whenChoices : List (List String) :=
  [["always", "yes", "force"], ["never", "no", "none"], ["auto", "tty", "if-tty"]]

/-- The options that take a word, and those that have names alone. -/
def wordFlags : List Flag :=
  [given 'I' ["ignore"], given 'w' ["width"], given 'T' ["tabsize"], given '\x01' ["sort"],
    given '\x02' ["format"], given '\x03' ["quoting-style"], given '\x04' ["indicator-style"],
    given '\x05' ["hide"], given '\x06' ["time"], given '\x07' ["time-style"],
    given '\x08' ["block-size"],
    { letter := '\x0e', names := ["color"], giving := .wordIfJoined },
    { letter := '\x0f', names := ["classify"], giving := .wordIfJoined },
    { letter := '\x10', names := ["hyperlink"], giving := .wordIfJoined },
    flag '\x11' ["file-type"], flag '\x12' ["group-directories-first"], flag '\x13' ["zero"],
    flag '\x14' ["si"], flag '\x15' ["author"], flag '\x16' ["full-time"],
    flag '\x17' ["show-control-chars"], flag '\x18' ["dereference-command-line-symlink-to-dir"]]

/-- All options. -/
def flags : List Flag :=
  let names : List (Char × List String) :=
    [('a', ["all"]), ('A', ["almost-all"]), ('b', ["escape"]), ('B', ["ignore-backups"]),
      ('d', ["directory"]), ('D', ["dired"]), ('G', ["no-group"]), ('h', ["human-readable"]),
      ('H', ["dereference-command-line"]), ('i', ["inode"]), ('k', ["kibibytes"]),
      ('L', ["dereference"]), ('n', ["numeric-uid-gid"]), ('N', ["literal"]),
      ('q', ["hide-control-chars"]), ('Q', ["quote-name"]), ('r', ["reverse"]),
      ('R', ["recursive"]), ('s', ["size"]), ('Z', ["context"])]
  "1aAbBcCdDfFgGhHiklLmnNopqQrRsStuUvxXZ".toList.map (fun letter =>
    flag letter ((names.lookup letter).getD [])) ++ wordFlags

def layoutAfter (layout : Layout) (option : Char × Option Chars) : Task Layout := do
  match option with
  | ('l', _) | ('g', _) | ('n', _) | ('o', _) | ('\x16', _) => return .long
  | ('C', _) => return .down
  | ('x', _) => return .across
  | ('m', _) => return .commas
  | ('1', _) => return if layout = .long then .long else .single
  | ('f', _) => return if layout = .long then .single else layout
  | ('\x02', some word) =>
      let choices :=
        [["verbose", "long"], ["commas"], ["horizontal", "across"], ["vertical"], ["single-column"]]
      match ← choose 1 "--format".toList choices word with
      | 0 => return .long
      | 1 => return .commas
      | 2 => return .across
      | 3 => return .down
      | _ => return .single
  | _ => return layout

/-- In which order files are listed, after an option. -/
def rankingAfter (ranking : Ranking) (option : Char × Option Chars) : Task Ranking := do
  match option with
  | ('t', _) => return .time
  | ('S', _) => return .size
  | ('X', _) => return .ending
  | ('v', _) => return .version
  | ('U', _) | ('f', _) => return .none
  | ('\x01', some word) =>
      let choices := ["none", "time", "size", "extension", "version", "width"].map (fun word => [word])
      match ← choose 1 "--sort".toList choices word with
      | 0 => return .none
      | 1 => return .time
      | 2 => return .size
      | 3 => return .ending
      | 4 => return .version
      | _ => return .width
  | _ => return ranking

def signsAfter (signs : Signs) (option : Char × Option Chars) : Task Signs := do
  match option with
  | ('F', _) | ('\x0f', none) => return .all
  | ('p', _) => return .slash
  | ('\x11', _) => return .kind
  | ('\x0f', some word) =>
      return if (← choose 1 "--classify".toList whenChoices word) = 0 then .all else signs
  | ('\x04', some word) =>
      let choices := ["none", "slash", "file-type", "classify"].map (fun word => [word])
      match ← choose 1 "--indicator-style".toList choices word with
      | 0 => return .none
      | 1 => return .slash
      | 2 => return .kind
      | _ => return .all
  | _ => return signs

def quotingAfter (quoting : Quoting) (option : Char × Option Chars) : Task Quoting := do
  match option with
  | ('Q', _) => return .marks
  | ('b', _) => return .escapes
  | ('N', _) => return .literal
  | ('\x03', some word) =>
      let choices :=
        ["literal", "shell", "shell-always", "shell-escape", "shell-escape-always", "c", "c-maybe",
          "escape", "locale", "clocale"].map (fun word => [word])
      match ← choose 1 "--quoting-style".toList choices word with
      | 0 => return .literal
      | 1 | 3 => return .shell
      | 2 | 4 => return .shellAlways
      | 5 | 6 => return .marks
      | 7 => return .escapes
      | _ => return .locale
  | _ => return quoting

def numberOf (arguments : Arguments) (letter : Char) (usual : Nat) (what : String) : Task Nat := do
  match arguments.value? letter with
  | none => return usual
  | some word =>
      if Chars.isNumber word then return Chars.digitsValue word
      else Task.fail 2 (("invalid " ++ what ++ ": ").toList ++ marked word)

/-- All that was given to an option. -/
def valuesOf (arguments : Arguments) (letter : Char) : List Chars :=
  arguments.options.filterMap (fun option => if option.1 = letter then option.2 else none)

def checkChoice (arguments : Arguments) (letter : Char) (name : String)
    (choices : List (List String)) : Task Unit := do
  if let some word := arguments.value? letter then
    let _ ← choose 1 name.toList choices word

/-- Lists files and what lies in directories. -/
def run (words : List Chars) : Task Unit := do
  let arguments ← readArguments { flags, status := 2 } words
  let has := arguments.has
  let options := arguments.options
  let layout ← options.foldlM layoutAfter .single
  let usual : Ranking := if (has 'c' || has 'u') && layout != .long then .time else .name
  let ranking ← options.foldlM rankingAfter usual
  let signs ← options.foldlM signsAfter .none
  let quoting ← options.foldlM quotingAfter .literal
  checkChoice arguments '\x0e' "--color" whenChoices
  checkChoice arguments '\x10' "--hyperlink" whenChoices
  checkChoice arguments '\x06' "--time"
    [["atime", "access", "use"], ["ctime", "status"], ["mtime", "modification"],
      ["birth", "creation"]]
  let width ← numberOf arguments 'w' 80 "line width"
  let tab ← numberOf arguments 'T' 8 "tab size"
  let all := has 'a' || has 'f'
  let hidden := has 'A' || all
  let layout := if has '\x13' && layout != .long then Layout.single else layout
  let isLong := layout = .long
  let backups := if has 'B' then [['*', '~'], ['.', '*', '~']] else []
  let manner : Manner :=
    { hidden
      dots := all
      plain := has 'd'
      deep := has 'R' && !(has 'd')
      follow := has 'L'
      followNamed := has 'H'
      enter := !(has 'd' || isLong || signs = .all)
      ranking
      reverse := has 'r'
      grouped := has '\x12'
      layout
      room := { width, tab, ending := if has '\x13' then '\x00' else '\n' }
      signs
      quoting
      veiled := has 'q'
      units := if has '\x14' then some 1000 else if has 'h' then some 1024 else none
      blocks := has 's'
      number := has 'i'
      context := has 'Z'
      owner := !(has 'g')
      group := !(has 'G' || has 'o')
      author := has '\x15'
      numeric := has 'n'
      ignored :=
        valuesOf arguments 'I' ++ backups ++ (if hidden then [] else valuesOf arguments '\x05') }
  listAll manner (if arguments.operands.isEmpty then [['.']] else arguments.operands)

end Listing
end Utility
end Machine
end AstLink
