import AstLink.Machine.Shell.Field
import AstLink.Machine.Shell.Script

namespace AstLink
namespace Machine
namespace Shell
namespace Expansion

/-!
Expansion: what is put in for the parameters, commands and expressions in a word.

A word is gone through from left to right and its pieces are collected in a draft, which also notes
the stretches in which the result will be split into fields.
-/

/-- In what way a word is expanded. -/
structure Mode where
  /-- The result is split into fields, which may be patterns. -/
  split : Bool := false
  pattern : Bool := false
  /-- The word may begin with the name of a home directory. -/
  home : Bool := false
  /-- Such names may also come behind the sign of an assignment and behind colons. -/
  assignment : Bool := false
  /-- The sign of the assignment has been passed. -/
  assigned : Bool := false
  quoted : Bool := false
  /-- The word stands inside a parameter, so that all of it is split. -/
  inner : Bool := false

def Mode.keepsQuotes (mode : Mode) : Bool := mode.split || mode.pattern

/-- A word in the making. -/
structure Draft where
  /-- The pieces, latest first. -/
  cells : List Cell := []
  size : Nat := 0
  /-- The stretches in which it is split, latest first. -/
  parts : List Stretch := []

namespace Draft

def add (draft : Draft) (cell : Cell) : Draft :=
  { draft with cells := cell :: draft.cells, size := draft.size + 1 }

def addText (draft : Draft) (active : Bool) (text : Chars) : Draft :=
  text.foldl (fun draft char => draft.add (.sign char active)) draft

/-- Notes a stretch from a place up to the end. -/
def note (draft : Draft) (first : Nat) (byArguments : Bool) : Draft :=
  { draft with parts := ⟨first, draft.size, byArguments⟩ :: draft.parts }

end Draft

/-- Adds text that stands in for something. -/
def putIn (mode : Mode) (text : Chars) (draft : Draft) : Draft :=
  draft.addText (!(mode.keepsQuotes && mode.quoted)) text

/-! ## Home directories -/

def homeOf (session : Session) (user : Chars) : Option Chars :=
  if user.isEmpty then Action.valueIn? session "HOME".toList
  else if user = "root".toList then some "/root".toList
  else none

/-- The home directory that a text begins with the name of, and what follows the name.  `ends` says
that the word has no parts behind the text. -/
def home? (session : Session) (mode : Mode) (ends : Bool) (text : Chars) :
    Option (Chars × Chars) := do
  match text with
  | '~' :: rest =>
      let user := rest.takeWhile (fun char => char != '/' && !(mode.assignment && char = ':'))
      let after := rest.drop user.length
      if after.isEmpty && !ends then none
      let home ← homeOf session user
      return (home, after)
  | _ => none

/-- Adds characters as they stand in the script.  `mayBeHome` says that the name of a home directory
may come next. -/
def addPlain (session : Session) (ends splits : Bool) :
    Nat -> Bool -> Mode -> Chars -> Draft -> Mode × Draft
  | 0, _, mode, _, draft => (mode, draft)
  | bound + 1, mayBeHome, mode, text, draft =>
      match if mayBeHome then home? session mode ends text else none with
      | some (home, rest) =>
          let draft := draft.addText (!mode.keepsQuotes) home
          addPlain session ends splits bound false mode rest draft
      | none =>
          let isEnd (char : Char) : Bool :=
            mode.assignment && (char = ':' || (!mode.assigned && char = '='))
          let plain := text.takeWhile (fun char => !isEnd char)
          let plain := plain ++ (text.drop plain.length).take 1
          if plain.isEmpty then (mode, draft)
          else
            let first := draft.size
            let draft := draft.addText true plain
            let draft := if splits then draft.note first false else draft
            let mode := { mode with assigned := mode.assigned || plain.getLast? = some '=' }
            addPlain session ends splits bound true mode (text.drop plain.length) draft

/-! ## Parameters -/

/-- The text of all arguments, joined by a character if one is given. -/
def joined (between : Option Char) (arguments : List Chars) : Chars :=
  (arguments.intersperse between.toList).flatten

def valueOf? (session : Session) (mode : Mode) (name : Chars) : Option Chars :=
  let all : Option Chars :=
    let blanks := Action.valueIn? session "IFS".toList
    let sign : Option Char :=
      match blanks with
      | none => some ' '
      | some blanks => if mode.split && !mode.quoted then some between else blanks.head?
    some (joined sign session.arguments)
  match name with
  | ['$'] => some (Chars.ofNat session.root)
  | ['?'] => some (Chars.ofNat session.status)
  | ['#'] => some (Chars.ofNat session.arguments.length)
  | ['!'] => session.lastBackground.map Chars.ofNat
  | ['-'] => some (Action.letters session)
  | ['@'] =>
      if mode.quoted && mode.split then some (joined (some between) session.arguments) else all
  | ['*'] => all
  | name =>
      if Chars.isNumber name then
        match Chars.digitsValue name with
        | 0 => some session.name
        | number + 1 => session.arguments[number]?
      else Action.valueIn? session name

/-- Adds the value of a parameter and notes the stretch. -/
def noteValue (session : Session) (mode : Mode) (name : Chars) (first : Nat) (draft : Draft) :
    Draft :=
  if mode.quoted then
    if name = ['@'] && !session.arguments.isEmpty then draft.note first true else draft
  else draft.note first false

/-- The number that a variable stands for in an expression, as a text. -/
def inExpression (session : Session) (name : Chars) : Chars :=
  (Action.valueIn? session name).getD []

/-- The result of an expression, after the variables have been set that it sets. -/
def arithmetic (text : Chars) : Action Chars := do
  match Arithmetic.evaluate (inExpression (← get)) text with
  | .error failure => Action.fail (failure.message text)
  | .ok (result, assigned) =>
      for (name, value) in assigned.reverse do
        Action.setVariable name (Chars.ofInt value)
      return Chars.ofInt result

mutual

/-- Expands the parts of a word.  `inside` says that a quotation is open, and `mayBeHome` that the
name of a home directory may come next. -/
def parts (engine : Engine) :
    Nat -> Mode -> Bool -> Bool -> Word -> Draft -> Action Draft
  | 0, _, _, _, _, draft => return draft
  | bound + 1, mode, inside, mayBeHome, word, draft => do
      let splits := mode.inner && !mode.quoted && !inside
      let within : Mode := { mode with home := false, quoted := mode.quoted || inside }
      match word with
      | [] => return draft
      | .mark :: .parameter ['@'] .value false [] :: .mark :: rest =>
          if inside then
            let draft := if mode.keepsQuotes then draft.add .mark else draft
            parts engine bound mode false false (word.drop 1) draft
          else
            let whole : Mode := { mode with home := false, quoted := true }
            let draft ← parameter engine bound whole ['@'] .value false [] draft
            parts engine bound mode false false rest draft
      | .mark :: rest =>
          let draft := if mode.keepsQuotes then draft.add .mark else draft
          parts engine bound mode (!inside) false rest draft
      | .escaped char :: rest =>
          parts engine bound mode inside false rest (draft.add (.sign char (!mode.keepsQuotes)))
      | .text text :: rest =>
          let (mode, draft) :=
            addPlain (← get) rest.isEmpty splits (text.length + 2) mayBeHome mode text draft
          parts engine bound mode inside false rest draft
      | .parameter name use orEmpty word :: rest =>
          let draft ← parameter engine bound within name use orEmpty word draft
          parts engine bound mode inside false rest draft
      | .output body :: rest =>
          let first := draft.size
          let draft := putIn within (← engine.output body) draft
          let draft := if within.quoted then draft else draft.note first false
          parts engine bound mode inside false rest draft
      | .arithmetic expression :: rest =>
          let inner ← parts engine bound {} false false expression {}
          let first := draft.size
          let draft := putIn within (← arithmetic (Cell.text inner.cells.reverse)) draft
          let draft := if within.quoted then draft else draft.note first false
          parts engine bound mode inside false rest draft

def parameter (engine : Engine) :
    Nat -> Mode -> Chars -> Use -> Bool -> Word -> Draft -> Action Draft
  | 0, _, _, _, _, _, draft => return draft
  | bound + 1, mode, name, use, orEmpty, word, draft => do
      if use = .unknown then Action.fail "Bad substitution".toList
      let session ← get
      let value := valueOf? session mode name
      let value := if orEmpty && value = some [] then none else value
      let first := draft.size
      let give (text : Chars) : Draft :=
        noteValue session mode name first (putIn mode text draft)
      let unset (text : Chars) : Action Draft := Action.fail (name ++ ": ".toList ++ text)
      let demanded ← Action.isOn "nounset"
      let missing := "parameter not set".toList
      let inner (mode : Mode) : Action Chars := do
        return Cell.text (← parts engine bound mode false mode.home word {}).cells.reverse
      let instead : Mode := { mode with home := true, inner := true }
      match use, value with
      | .orElse, some text | .assign, some text | .demand, some text => return give text
      | .orElse, none => parts engine bound instead false true word draft
      | .instead, some _ => parts engine bound instead false true word draft
      | .instead, none => return noteValue session mode name first draft
      | .assign, none =>
          Action.setVariable name (← inner { home := true })
          let session ← get
          let text := (valueOf? session mode name).getD []
          return noteValue session mode name first (putIn mode text draft)
      | .demand, none =>
          if word.isEmpty then unset (missing ++ if orEmpty then " or null".toList else [])
          else unset (← inner { home := true })
      | .length, value =>
          if value.isNone && demanded then unset missing
          else return give (Chars.ofNat (value.getD []).length)
      | .value, some text => return give text
      | .value, none => if demanded then unset missing else return draft
      | .cut front longest, some text =>
          let pattern ← parts engine bound { pattern := true, home := true } false true word {}
          let glyphs := Cell.pattern pattern.cells.reverse
          return give (Pattern.cut front longest glyphs text)
      | .cut .., none => if demanded then unset missing else return draft
      | .unknown, _ => return draft

end

/-! ## Words -/

def draft (engine : Engine) (mode : Mode) (word : Word) : Action Draft :=
  parts engine Work.bound mode false mode.home word {}

def text (engine : Engine) (mode : Mode) (word : Word) : Action Chars := do
  return Cell.text (← draft engine mode word).cells.reverse

def assignment (engine : Engine) (word : Word) : Action Chars :=
  text engine { assignment := true } word

def pattern (engine : Engine) (word : Word) : Action (List Glyph) := do
  return Cell.pattern (← draft engine { home := true, pattern := true } word).cells.reverse

/-- The characters at which words are split. -/
def separators (session : Session) : Chars :=
  (Action.valueIn? session "IFS".toList).getD Action.usualBlanks

def fields (engine : Engine) (word : Word) : Action (List Chars) := do
  let draft ← draft engine { split := true, home := true } word
  let separators := separators (← get)
  let fields := Field.split separators none draft.cells.reverse draft.parts.reverse
  let texts ← fields.mapM Field.texts
  return texts.flatten

def allFields (engine : Engine) (words : List Word) : Action (List Chars) := do
  return (← words.mapM (fields engine)).flatten

/-- A text that is expanded like one between double quotes. -/
def quotedText (engine : Engine) (text : Chars) : Action Chars := do
  let session ← get
  let cursor : Cursor :=
    { rest := text, line := 1, aliases := session.aliases, documents := session.documents }
  let reading : Reading Unit := do
    let first ← Reading.nextJoined
    let ending : Lexer.Ending := { text := [], tabs := false, never := true }
    let _ ← Lexer.wordFrom (Reader.grammar Reader.maxDepth) .double (some ending) first
  match reading.run cursor with
  | .ok (_, cursor) =>
      modify (fun session => { session with documents := cursor.documents })
      Expansion.text engine { quoted := true } cursor.word
  | .error _ => return text

end Expansion
end Shell
end Machine
end AstLink
