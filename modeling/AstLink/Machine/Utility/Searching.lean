import AstLink.Machine.Regex.Match
import AstLink.Machine.Regex.Reader
import AstLink.Machine.Utility.Naming
import AstLink.Machine.Utility.Source

namespace AstLink
namespace Machine
namespace Utility
namespace Searching

/-!
`grep`, which searches the lines of files for patterns.
-/

structure Search where
  patterns : List Regex.Pattern
  manner : Regex.Manner := {}
  inverted : Bool := false
  wholeWords : Bool := false
  wholeLines : Bool := false
  countOnly : Bool := false
  /-- Only the names of the files with such lines, or without. -/
  namesOnly : Option Bool := none
  quiet : Bool := false
  matchesOnly : Bool := false
  numbers : Bool := false
  offsets : Bool := false
  names : Bool := false
  before : Nat := 0
  after : Nat := 0
  /-- Whether lines that do not follow one another are parted. -/
  parted : Bool := false
  limit : Option Nat := none
  asText : Bool := false
  /-- What stands behind the name of a file. -/
  nameEnd : Option Char := none
  separator : Char := '\n'
  colored : Bool := false

/-! ## Matches -/

/-- Whether a match may lie between two places. -/
def fits (search : Search) (first last : Regex.Spot) : Bool :=
  if search.wholeLines then first.before.isNone && last.rest.isEmpty
  else !search.wholeWords || (!Regex.inWord first.before && !Regex.inWord last.rest.head?)

/-- The end of the longest match that begins at a place. -/
def longestAt? (search : Search) (line : Chars) (spot : Regex.Spot) : Option Nat :=
  let ends := search.patterns.flatMap (fun pattern =>
    (Regex.spots search.manner pattern.looksBack line pattern spot).filter (fits search spot))
  (ends.map Regex.Spot.place).max?

/-- The first match at or behind a place: where it begins and ends. -/
def find? (search : Search) (line : Chars) : Nat -> Regex.Spot -> Option (Regex.Spot × Nat)
  | bound, spot =>
      match longestAt? search line spot, bound with
      | some last, _ => some (spot, last)
      | none, 0 => none
      | none, bound + 1 =>
          if spot.rest.isEmpty || search.wholeLines then none
          else find? search line bound spot.next

def isSelected (search : Search) (line : Chars) : Bool :=
  (find? search line line.length (Regex.Spot.start line)).isSome != search.inverted

def matchesIn (search : Search) (line : Chars) : Nat -> Regex.Spot -> List (Nat × Chars)
  | 0, _ => []
  | bound + 1, spot =>
      match find? search line spot.rest.length spot with
      | none => []
      | some (start, last) =>
          if last = start.place then
            if start.rest.isEmpty then [] else matchesIn search line bound start.next
          else
            let text := start.rest.take (last - start.place)
            (start.place, text) :: matchesIn search line bound (start.skip text.length)

/-! ## Output -/

structure Line where
  number : Nat
  offset : Nat
  text : Chars

/-- Where the search of a file is. -/
structure Progress where
  /-- The number of the next line, and where it begins. -/
  number : Nat := 1
  offset : Nat := 0
  selected : Nat := 0
  /-- How many lines are still shown behind the last selected one. -/
  following : Nat := 0
  /-- The lines before that may still be shown, latest first. -/
  recent : List Line := []
  /-- The number of the last line that was shown. -/
  shown : Nat := 0
  isBinary : Bool := false

def heading (search : Search) (name : Chars) (mark : Char) (line : Line) : Chars :=
  let name :=
    if search.names then name ++ [search.nameEnd.getD mark] else []
  let number := if search.numbers then Chars.ofNat line.number ++ [mark] else []
  let offset := if search.offsets then Chars.ofNat line.offset ++ [mark] else []
  name ++ number ++ offset

def inColor (text : Chars) : Chars :=
  "\x1b[01;31m\x1b[K".toList ++ text ++ "\x1b[m\x1b[K".toList

def withColor (place : Nat) (line : Chars) : List (Nat × Chars) -> Chars
  | [] => line.drop place
  | (start, text) :: others =>
      (line.drop place).take (start - place) ++ inColor text ++
        withColor (start + text.length) line others

def allMatches (search : Search) (line : Chars) : List (Nat × Chars) :=
  matchesIn search line (line.length + 1) (Regex.Spot.start line)

def showLine (search : Search) (name : Chars) (mark : Char) (line : Line) : Task Unit := do
  if search.matchesOnly then
    if mark = ':' && !search.inverted then
      for (place, text) in allMatches search line.text do
        let line := { line with offset := line.offset + place }
        let text := if search.colored then inColor text else text
        Task.say (heading search name mark line ++ text ++ [search.separator])
  else
    let text :=
      if search.colored && mark = ':' && !search.inverted then
        withColor 0 line.text (allMatches search line.text)
      else line.text
    Task.say (heading search name mark line ++ text ++ [search.separator])

/-- Shows lines, with a mark before them if others were left out.  `any` says whether a line was
shown before. -/
def showBlock (search : Search) (name : Chars) (any : Bool) (progress : Progress)
    (lines : List (Char × Line)) : Task Progress := do
  let first := (lines.head?.map (fun entry => entry.2.number)).getD 0
  let adjacent := progress.shown != 0 && first = progress.shown + 1
  if search.parted && !search.matchesOnly && (any || progress.shown != 0) && !adjacent then
    Task.line "--".toList
  for (mark, line) in lines do showLine search name mark line
  return { progress with
    shown := (lines.getLast?.map (fun entry => entry.2.number)).getD progress.shown }

def showsLines (search : Search) : Bool :=
  !search.quiet && !search.countOnly && search.namesOnly.isNone

/-- Deals with a line.  `any` says whether a line of another file was shown. -/
def takeLine (search : Search) (name : Chars) (any : Bool) (text : Chars) (ended : Bool)
    (progress : Progress) : Task Progress := do
  let line : Line := ⟨progress.number, progress.offset, text⟩
  let progress :=
    { progress with
      number := progress.number + 1
      offset := progress.offset + text.length + (if ended then 1 else 0) }
  let shows := showsLines search && !progress.isBinary
  let isFull := (search.limit.map (fun limit => decide (limit ≤ progress.selected))).getD false
  if !isFull && isSelected search text then
    let lines := (progress.recent.reverse.map (fun line => ('-', line))) ++ [(':', line)]
    let progress ← if shows then showBlock search name any progress lines else pure progress
    return { progress with
      selected := progress.selected + 1
      following := search.after
      recent := [] }
  else if 0 < progress.following then
    let progress ←
      if shows then showBlock search name any progress [('-', line)] else pure progress
    return { progress with following := progress.following - 1 }
  else return { progress with recent := (line :: progress.recent).take search.before }

/-- Whether the search of a file has come to its end. -/
def isDone (search : Search) (progress : Progress) : Bool :=
  let isFull := (search.limit.map (fun limit => decide (limit ≤ progress.selected))).getD false
  let isEnough := 0 < progress.selected &&
    (search.quiet || search.namesOnly.isSome || (progress.isBinary && !search.countOnly))
  isEnough || (isFull && progress.following = 0)

def searchLines (search : Search) (name : Chars) (any : Bool) :
    Nat -> Feed -> Progress -> Task (Except Obstacle Progress)
  | 0, _, progress => return .ok progress
  | bound + 1, feed, progress => do
      if isDone search progress then
        if search.limit.isSome then feed.giveBack
        return .ok progress
      match ← feed.line? with
      | .error obstacle => return .error obstacle
      | .ok (none, _) => return .ok progress
      | .ok (some (text, ended), feed) =>
          let isBinary := progress.isBinary ||
            (!search.asText && search.separator = '\n' &&
              (text.contains '\x00' || (progress.number = 1 && feed.waiting.contains '\x00')))
          let progress ← takeLine search name any text ended { progress with isBinary }
          searchLines search name any bound feed progress

/-- Complains about a file, unless nothing is to be said. -/
def complainAbout (silent : Bool) (path : Chars) (obstacle : Obstacle) : Task Unit := do
  if !silent then Task.complain (path ++ ": ".toList ++ obstacle.text.toList)
  Task.setStatus 2

/-- How a search of files is carried on. -/
structure Course where
  search : Search
  label : Chars
  silent : Bool
  deep : Bool
  skipsDirectories : Bool
  /-- Which names of files are searched. -/
  takes : Chars -> Bool := fun _ => true

/-- Shows what came of the search of a file. -/
def conclude (search : Search) (name : Chars) (progress : Progress) : Task Unit := do
  let ending := search.nameEnd.getD '\n'
  if search.quiet then return
  match search.namesOnly with
  | some wanted => if (0 < progress.selected) = wanted then Task.say (name ++ [ending])
  | none =>
      if search.countOnly then
        let name := if search.names then name ++ [search.nameEnd.getD ':'] else []
        Task.line (name ++ Chars.ofNat progress.selected)
      else if progress.isBinary && 0 < progress.selected then
        Task.complain (name ++ ": binary file matches".toList)

/-- Searches a file, or the files below a directory.  `any` says whether a line was shown before;
the result says whether one was now, and whether a line was selected. -/
def searchPath (course : Course) : Nat -> Bool -> Bool -> Chars -> Task (Bool × Bool)
  | 0, any, _, _ => return (any, false)
  | bound + 1, any, isOperand, path => do
      let search := course.search
      match ← openSource path with
      | .error obstacle =>
          complainAbout course.silent path obstacle
          return (any, false)
      | .ok source =>
          let name := if path = ['-'] then course.label else path
          let info := (← (Work.inspectOpen source.descriptor : Task _)).toOption
          if (info.map (fun info => decide (info.sort = .directory))).getD false then
            closeSource source
            if course.deep then
              let names := ((← (Work.names path : Task _)).toOption).getD []
              let mut any := any
              let mut selected := false
              for name in names do
                let path :=
                  if path.getLast? = some '/' then path ++ name else path ++ '/' :: name
                let (shown, found) ← searchPath course bound any false path
                any := shown
                selected := selected || found
              return (any, selected)
            else
              if !course.skipsDirectories then complainAbout course.silent path .isDirectory
              return (any, false)
          else if !isOperand && !course.takes (lastName path) then
            closeSource source
            return (any, false)
          else
            let feed : Feed := { source, separator := search.separator, portion := 32768 }
            let result ← searchLines search name any Work.bound feed {}
            closeSource source
            match result with
            | .error obstacle =>
                complainAbout course.silent path obstacle
                return (any, false)
            | .ok progress =>
                conclude search name progress
                return (any || progress.shown != 0, 0 < progress.selected)

def searchPaths (course : Course) (any selected : Bool) : List Chars -> Task Bool
  | [] => return selected
  | path :: paths => do
      let (any, found) ← searchPath course 200 any true path
      if found && course.search.quiet then return true
      searchPaths course any (selected || found) paths

/-! ## Options -/

/-- The options. -/
def flags : List Flag :=
  [flag 'E' ["extended-regexp"], flag 'F' ["fixed-strings"], flag 'G' ["basic-regexp"],
    flag 'P' ["perl-regexp"], given 'e' ["regexp"], given 'f' ["file"],
    flag 'i' ["ignore-case"], flag 'y' [], flag '\x01' ["no-ignore-case"],
    flag 'w' ["word-regexp"], flag 'x' ["line-regexp"], flag 'z' ["null-data"],
    flag 's' ["no-messages"], flag 'v' ["invert-match"], given 'm' ["max-count"],
    flag 'b' ["byte-offset"], flag 'n' ["line-number"], flag '\x02' ["line-buffered"],
    flag 'H' ["with-filename"], flag 'h' ["no-filename"], given '\x03' ["label"],
    flag 'o' ["only-matching"], flag 'q' ["quiet", "silent"], given '\x04' ["binary-files"],
    flag 'a' ["text"], flag 'I' [], given 'd' ["directories"], given 'D' ["devices"],
    flag 'r' ["recursive"], flag 'R' ["dereference-recursive"], given '\x05' ["include"],
    given '\x06' ["exclude"], flag 'L' ["files-without-match"], flag 'l' ["files-with-matches"],
    flag 'c' ["count"], flag 'T' ["initial-tab"], flag 'Z' ["null"],
    given 'B' ["before-context"], given 'A' ["after-context"], given 'C' ["context"],
    { letter := '\x07', names := ["color", "colour"], giving := .wordIfJoined },
    flag 'U' ["binary"], flag 'u' ["unix-byte-offsets"]] ++
  "0123456789".toList.map (fun digit => flag digit [])

/-- What is said to whoever called the program in a wrong way. -/
def usage : Chars :=
  ("Usage: grep [OPTION]... PATTERNS [FILE]...\n" ++
    "Try \x27grep --help\x27 for more information.\n").toList

def lineCount (arguments : Arguments) (letter : Char) : Task (Option Nat) := do
  match arguments.value? letter with
  | none => return none
  | some text =>
      if Chars.isNumber text then return some (Chars.digitsValue text)
      else Task.fail 2 (text ++ ": invalid context length argument".toList)

/-- The texts of the patterns, or `none` if there are none. -/
def patternTexts (arguments : Arguments) : Task (Option (List Chars)) := do
  let mut texts : List Chars := []
  let mut found := false
  for (letter, value) in arguments.options do
    let value := value.getD []
    if letter = 'e' then
      texts := texts ++ Chars.splitOn '\n' value
      found := true
    else if letter = 'f' then
      found := true
      match ← readPath value with
      | .ok text => texts := texts ++ Chars.bareLines text
      | .error obstacle => Task.fail 2 (value ++ ": ".toList ++ obstacle.text.toList)
  return if found then some texts else none

def fitsStars (pattern name : Chars) : Bool :=
  let sign (char : Char) : Regex.Pattern :=
    if char = '*' then .many (.one Regex.CharSet.any) 0 none
    else if char = '?' then .one Regex.CharSet.any
    else .one (Regex.CharSet.single char)
  let pattern := pattern.foldr (fun char rest => Regex.Pattern.both (sign char) rest) .empty
  (Regex.spots {} false name pattern (Regex.Spot.start name)).any (fun spot => spot.rest.isEmpty)

/-- Searches files. -/
def run (kind : Option Char) (words : List Chars) : Task Unit := do
  if kind.isSome then modify (fun console => { console with name := "grep".toList })
  modify (fun console => { console with usage := some usage })
  let check (options : List (Char × Option Chars)) (letter : Char) (_ : Option Chars) :
      Task Unit := do
    let isKind (letter : Char) : Bool := ['E', 'F', 'G', 'P'].contains letter
    let before := (options.map Prod.fst).filter isKind ++ kind.toList
    if isKind letter && before.any (fun other => other != letter) then
      Task.fail 2 "conflicting matchers specified".toList
    if letter = 'u' then
      Task.complain "warning: --unix-byte-offsets (-u) is obsolete".toList
  let arguments ← readArguments { flags, status := 2, check } words
  let has := arguments.has
  let kind := (kind.or (arguments.last? "EFGP")).getD 'G'
  let given ← patternTexts arguments
  let (texts, operands) ←
    match given, arguments.operands with
    | some texts, operands => pure (texts, operands)
    | none, text :: operands => pure (Chars.splitOn '\n' text, operands)
    | none, [] => do
        Task.pointToHelp
        Task.stop 2
  let limit ←
    match arguments.value? 'm' with
    | none => pure none
    | some text =>
        if Chars.isNumber text then pure (some (Chars.digitsValue text))
        else Task.fail 2 "invalid max count".toList
  let digits := (arguments.options.map Prod.fst).filter Char.isDigit
  let digitCount := if digits.isEmpty then none else some (Chars.digitsValue digits)
  let both := match ← lineCount arguments 'C' with
    | some count => some count
    | none => digitCount
  let before := (← lineCount arguments 'B').orElse (fun _ => both)
  let after := (← lineCount arguments 'A').orElse (fun _ => both)
  if has 'u' then Task.complain "warning: --unix-byte-offsets (-u) is obsolete".toList
  let read (text : Chars) : Task Regex.Pattern := do
    if kind = 'F' then return Regex.Pattern.ofText text
    else
      match Regex.read (.search (kind != 'G')) text with
      | .ok compiled =>
          for warning in compiled.warnings do
            Task.complain ("warning: ".toList ++ warning.toList)
          return compiled.pattern
      | .error failure => Task.fail 2 failure.message.toList
  let patterns ← texts.mapM read
  let deep := has 'r' || has 'R' || arguments.value? 'd' = some "recurse".toList
  let paths :=
    if operands.isEmpty then if deep then [['.']] else [['-']] else operands
  let isDirectory (path : Chars) : Task Bool := do
    let info := (← (Work.inspect path true : Task _)).toOption
    return (info.map (fun info => decide (info.sort = .directory))).getD false
  let many ← if 1 < paths.length then pure true
    else if deep then isDirectory (paths.headD []) else pure false
  let names := match arguments.last? "Hh" with
    | some letter => letter = 'H'
    | none => many
  let color := (arguments.value? '\x07').getD []
  let search : Search :=
    { patterns
      manner := { folded := arguments.last? "iy\x01" = some 'i' || has 'y' }
      inverted := has 'v'
      wholeWords := has 'w'
      wholeLines := has 'x'
      countOnly := has 'c'
      namesOnly := (arguments.last? "Ll").map (fun letter => letter = 'l')
      quiet := has 'q'
      matchesOnly := has 'o'
      numbers := has 'n'
      offsets := has 'b'
      names
      before := before.getD 0
      after := after.getD 0
      parted := 0 < before.getD 0 || 0 < after.getD 0
      limit
      asText := has 'a' || arguments.value? '\x04' = some "text".toList || has 'z'
      nameEnd := if has 'Z' then some '\x00' else none
      separator := if has 'z' then '\x00' else '\n'
      colored := color = "always".toList }
  let included := (arguments.options.filter (fun option => option.1 = '\x05')).filterMap Prod.snd
  let excluded := (arguments.options.filter (fun option => option.1 = '\x06')).filterMap Prod.snd
  let course : Course :=
    { search
      label := (arguments.value? '\x03').getD "(standard input)".toList
      silent := has 's'
      deep
      skipsDirectories := arguments.value? 'd' = some "skip".toList
      takes := fun name =>
        (included.isEmpty || included.any (fun pattern => fitsStars pattern name)) &&
          !excluded.any (fun pattern => fitsStars pattern name) }
  if limit = some 0 then Task.stop 1
  let bare := operands.isEmpty && deep
  let paths ←
    if bare then
      pure (((← (Work.names ['.'] : Task _)).toOption).getD [])
    else pure paths
  let selected ← searchPaths course false false paths
  let status := (← get).status
  if selected && (status = 0 || search.quiet) then Task.setStatus 0
  else if status = 0 then Task.setStatus 1

end Searching
end Utility
end Machine
end AstLink
