import AstLink.Machine.Regex.Match
import AstLink.Machine.Regex.Reader
import AstLink.Machine.Utility.Source

namespace AstLink
namespace Machine
namespace Utility
namespace Numbering

/-!
`nl`, which numbers lines.  A text may have pages, and each page a header, a body and a footer; lines
that consist of marks say where those begin.
-/

inductive Part where
  | header
  | body
  | footer
  deriving DecidableEq, Repr

/-- Which lines are numbered. -/
inductive Style where
  | all
  | filled
  | none
  | matching (pattern : Regex.Pattern)

def style? (text : Chars) : Option Style :=
  match text with
  | ['a'] => some .all
  | ['t'] => some .filled
  | ['n'] => some .none
  | 'p' :: pattern =>
      match Regex.read (.search false) pattern with
      | .ok compiled => some (.matching compiled.pattern)
      | .error _ => Option.none
  | _ => Option.none

def Style.holds (style : Style) (line : Chars) : Bool :=
  match style with
  | .all => true
  | .filled => !line.isEmpty
  | .none => false
  | .matching pattern => (Regex.search? {} pattern line 0).isSome

/-- How lines are numbered. -/
structure Manner where
  header : Style := .none
  body : Style := .filled
  footer : Style := .none
  start : Int := 1
  step : Int := 1
  width : Nat := 6
  separator : Chars := ['\t']
  /-- How many empty lines count as one. -/
  joined : Nat := 1
  /-- Whether numbers begin again on every page. -/
  renumbered : Bool := true
  isLeft : Bool := false
  zeros : Bool := false
  mark : Chars := "\\:".toList

def Manner.style (manner : Manner) : Part -> Style
  | .header => manner.header
  | .body => manner.body
  | .footer => manner.footer

def Manner.number (manner : Manner) (number : Int) : Chars :=
  let digits := Chars.ofNat number.natAbs
  let sign := if number < 0 then ['-'] else []
  if manner.isLeft then Chars.padRight ' ' manner.width (sign ++ digits)
  else if manner.zeros then sign ++ Chars.padLeft '0' (manner.width - sign.length) digits
  else Chars.padLeft ' ' manner.width (sign ++ digits)

def Manner.part? (manner : Manner) (line : Chars) : Option Part :=
  let mark := manner.mark
  if mark.isEmpty then none
  else if line = mark ++ mark ++ mark then some .header
  else if line = mark ++ mark then some .body
  else if line = mark then some .footer
  else none

/-- Where numbering is. -/
structure Progress where
  part : Part := .body
  next : Int
  /-- How many empty lines were joined so far. -/
  empty : Nat := 0

def step (manner : Manner) (progress : Progress) (line : Chars × Bool) : Task Progress := do
  let text := line.1
  match manner.part? text with
  | some part =>
      Task.say ['\n']
      let next := if manner.renumbered then manner.start else progress.next
      return { progress with part, next }
  | none =>
      let style := manner.style progress.part
      let empty := if text.isEmpty then progress.empty + 1 else progress.empty
      let isJoined : Bool :=
        match style with
        | .all => text.isEmpty && 1 < manner.joined && empty < manner.joined
        | _ => false
      if style.holds text && !isJoined then
        Task.line (manner.number progress.next ++ manner.separator ++ text)
        let empty := if text.isEmpty then 0 else if 1 < manner.joined then 0 else empty
        return { progress with next := progress.next + manner.step, empty }
      else
        Task.line (List.replicate (manner.width + manner.separator.length) ' ' ++ text)
        return { progress with empty }

/-- Reads a whole number with a sign. -/
def integer? (text : Chars) : Option Int :=
  match text.dropWhile Chars.isSpace with
  | '-' :: digits =>
      if Chars.isNumber digits then some (-(Int.ofNat (Chars.digitsValue digits))) else none
  | '+' :: digits | digits =>
      if Chars.isNumber digits then some (Int.ofNat (Chars.digitsValue digits)) else none

/-- The options of `nl`.  Wrong styles, and options that there are not, are only complained about at
first. -/
def taking : Taking where
  flags :=
    [given 'b' ["body-numbering"], given 'h' ["header-numbering"], given 'f' ["footer-numbering"],
      given 'w' ["number-width"], given 's' ["number-separator"],
      given 'v' ["starting-line-number"], given 'i' ["line-increment"], given 'n' ["number-format"],
      given 'l' ["join-blank-lines"], given 'd' ["section-delimiter"], flag 'p' ["no-renumber"]]
  lenient := true
  check := fun _ letter value => do
    let text := value.getD []
    let style (name : String) : Task Unit := do
      if (style? text).isNone then
        Task.complain (("invalid " ++ name ++ " numbering style: ").toList ++ quoted text)
        Task.setStatus 1
    let number (what : String) (least : Int) : Task Unit := do
      match integer? text with
      | none => Task.fail 1 (("invalid " ++ what ++ ": ").toList ++ quoted text)
      | some value =>
          if value < least then
            Task.fail 1
              (("invalid " ++ what ++ ": ").toList ++ quoted text ++
                ": Numerical result out of range".toList)
    match letter with
    | 'b' => style "body"
    | 'h' => style "header"
    | 'f' => style "footer"
    | 'n' =>
        if !(["ln".toList, "rn".toList, "rz".toList].contains text) then
          Task.complain ("invalid line numbering format: ".toList ++ quoted text)
          Task.setStatus 1
    | 'v' => number "starting line number" (-(Nat.pow 2 63))
    | 'i' => number "line number increment" (-(Nat.pow 2 63))
    | 'w' => number "line number field width" 1
    | 'l' => number "line number of blank lines" 0
    | _ => return

/-- Numbers the lines of files. -/
def run (words : List Chars) : Task Unit := do
  let arguments ← readArguments taking words
  if (← get).status != 0 then
    Task.pointToHelp
    Task.stop 1
  let number (letter : Char) (usual : Int) : Int :=
    ((arguments.value? letter).bind integer?).getD usual
  let style (letter : Char) (usual : Style) : Style :=
    ((arguments.value? letter).bind style?).getD usual
  let format := (arguments.value? 'n').getD "rn".toList
  let mark :=
    match arguments.value? 'd' with
    | none => "\\:".toList
    | some [char] => [char, ':']
    | some mark => mark
  let manner : Manner :=
    { header := style 'h' .none
      body := style 'b' .filled
      footer := style 'f' .none
      start := number 'v' 1
      step := number 'i' 1
      width := (number 'w' 6).toNat
      separator := (arguments.value? 's').getD ['\t']
      joined := (number 'l' 1).toNat
      renumbered := !arguments.has 'p'
      isLeft := format = "ln".toList
      zeros := format = "rz".toList
      mark }
  let mut progress : Progress := { next := manner.start }
  for path in orInput arguments.operands do
    progress ← foldLines 1 '\n' (step manner) path progress

end Numbering
end Utility
end Machine
end AstLink
