import AstLink.Machine.Shell.Pattern
import AstLink.Machine.Shell.Session

namespace AstLink
namespace Machine
namespace Shell

/-!
Fields: what becomes of a word once everything has been put in.

A word is put together from characters that know whether they were quoted.  Some stretches of it
came from values that were not quoted; only there is the text split.  Each field that results may
then be a pattern for names of files.
-/

/-- A piece of a word that has been expanded. -/
inductive Cell where
  /-- A character, and whether it may have a meaning in patterns. -/
  | sign (char : Char) (active : Bool)
  | mark
  deriving DecidableEq, Repr

namespace Cell

def text (cells : List Cell) : Chars :=
  cells.filterMap (fun cell =>
    match cell with
    | .sign char _ => some char
    | .mark => none)

def pattern (cells : List Cell) : List Glyph :=
  Pattern.heed (cells.filterMap (fun cell =>
    match cell with
    | .sign char active => some ⟨char, active⟩
    | .mark => none))

end Cell

structure Stretch where
  first : Nat
  after : Nat
  /-- Whether it is split only between the arguments that it holds. -/
  byArguments : Bool
  deriving Repr

/-- The character that stands between arguments. -/
def between : Char := '\x00'

namespace Field

/-! ## Splitting -/

/-- A splitting in progress.  Places in the word are counted from its beginning. -/
structure Splitting where
  /-- Where the current field begins. -/
  start : Nat := 0
  /-- Whether the last field ended with a blank that separates, and only separators came since. -/
  inGap : Bool := false
  /-- How many further fields there may be; if there is no limit, nothing. -/
  left : Option Nat := none
  /-- Where the separators begin that the last field of all does without, if it ends with them. -/
  bare : Option Nat := none
  /-- The fields that are complete, latest first: where each begins and ends. -/
  fields : List (Nat × Nat) := []

/-- Takes the character at a place.  It may be a separator, and if it is, a blank.  `whole` says
that the stretch is split between arguments only, and `afterWhole` that the one before was. -/
def step (separator blank afterWhole whole : Bool) (place : Nat) (state : Splitting) : Splitting :=
  if state.left = some 0 then
    if blank then { state with bare := some (state.bare.getD place) }
    else
      { state with bare := if separator && state.inGap then state.bare else none, inGap := false }
  else if state.inGap then
    { state with start := if separator then place + 1 else place, inGap := blank }
  else if separator then
    let inGap := blank && !(afterWhole || whole)
    if place = state.start && inGap then { state with start := place + 1 }
    else if state.left = some 1 then { state with left := some 0, bare := some place, inGap }
    else
      { state with
        start := place + 1
        inGap
        left := state.left.map (fun left => left - 1)
        fields := (state.start, place) :: state.fields }
  else state

/-- Goes through a stretch.  `separates` says which characters separate fields. -/
def stretch (separates : Char -> Bool) (afterWhole : Bool) (cells : List Cell) (state : Splitting)
    (part : Stretch) : Splitting :=
  let inside := ((cells.drop part.first).take (part.after - part.first)).zipIdx part.first
  let whole := part.byArguments
  inside.foldl
    (fun state (cell, place) =>
      match cell with
      | .sign char _ =>
          let separator := char = between || (!whole && separates char)
          let blank := separator && (char = between || Action.usualBlanks.contains char)
          step separator blank afterWhole whole place state
      | .mark => step false false afterWhole whole place state)
    { state with inGap := false }

def stretches (separates : Char -> Bool) (cells : List Cell) :
    Bool -> Splitting -> List Stretch -> Bool × Splitting
  | afterWhole, state, [] => (afterWhole, state)
  | afterWhole, state, part :: parts =>
      stretches separates cells part.byArguments (stretch separates afterWhole cells state part)
        parts

/-- The fields of a word, given the stretches in which it is split and how many fields there may be
at most. -/
def split (separators : Chars) (limit : Option Nat) (cells : List Cell) (parts : List Stretch) :
    List (List Cell) :=
  let (whole, state) :=
    stretches (fun char => separators.contains char) cells false { left := limit } parts
  let slice (first after : Nat) : List Cell := (cells.drop first).take (after - first)
  let ending := if whole then cells.length else state.bare.getD cells.length
  let last := slice state.start ending
  let fields := state.fields.reverse.map (fun (first, after) => slice first after)
  if last.isEmpty && !whole then fields else fields ++ [last]

/-! ## Names of files -/

/-- Goes on behind a bracket that opens, up to one that closes it in the same name. -/
def closes : Nat -> List Glyph -> Bool
  | 0, _ => false
  | _, [] => false
  | bound + 1, glyph :: rest =>
      if glyph.char = '/' then false
      else
        match rest with
        | [] => false
        | next :: _ => (next.active && next.char = ']') || closes bound rest

/-- Whether a pattern stands for more than one name: it has a sign for any text or character, or a
bracket that is closed. -/
def isOpen : List Glyph -> Bool
  | [] => false
  | glyph :: rest =>
      if glyph.active && (glyph.char = '*' || glyph.char = '?') then true
      else if glyph.active && glyph.char = '[' then
        let inside :=
          match rest with
          | mark :: after => if mark.active && mark.char = '!' then after else rest
          | [] => []
        closes (rest.length + 1) inside || isOpen rest
      else isOpen rest

def pieces (pattern : List Glyph) : List (List Glyph) :=
  let (piece, done) := pattern.foldr
    (fun glyph (piece, done) =>
      if glyph.char = '/' then ([], piece :: done) else (glyph :: piece, done))
    (([] : List Glyph), ([] : List (List Glyph)))
  piece :: done

/-- The names that a pattern stands for in a directory: hidden ones only if it says so. -/
def fitting (piece : List Glyph) (names : List Chars) : List Chars :=
  let hidden := (piece.head?.map Glyph.char) = some '.'
  names.filter (fun name =>
    (hidden || name.head? != some '.') && Pattern.matchesText piece name)

/-- The paths that the pieces of a pattern stand for behind a path. -/
def paths (start : Chars) : List (List Glyph) -> Action (List Chars)
  | [] => return []
  | piece :: rest => do
      if isOpen piece then
        let directory := if start.isEmpty then ['.'] else start
        match ← Work.names directory with
        | .error _ => return []
        | .ok names =>
            let found := (fitting piece (['.'] :: ['.', '.'] :: names)).map (start ++ ·)
            if rest.isEmpty then return found
            else
              let further ← found.mapM (fun path => paths (path ++ ['/']) rest)
              return further.flatten
      else
        let path := start ++ Pattern.text piece
        if rest.isEmpty then
          match ← Work.inspect path false with
          | .ok _ => return [path]
          | .error _ => return []
        else paths (path ++ ['/']) rest

/-- The texts of a field: the files that it stands for as a pattern, else the field itself. -/
def texts (cells : List Cell) : Action (List Chars) := do
  let plain := Cell.text cells
  if (← Action.isOn "noglob") || !plain.any (fun char => ['*', '?', '['].contains char) then
    return [plain]
  let pattern := pieces (Cell.pattern cells)
  if !pattern.any isOpen then return [plain]
  match ← paths [] pattern with
  | [] => return [plain]
  | found => return found.mergeSort Chars.notAfter

end Field

end Shell
end Machine
end AstLink
