import AstLink.Machine.Calendar
import AstLink.Machine.Utility.Console

namespace AstLink
namespace Machine
namespace Utility
namespace Dating

/-!
`date`, which tells the date and the time of day, or writes others in some format.
-/

/-- A date and a time of day, with parts of a second. -/
abbrev Instant := Calendar × Nat

/-- The numbers between the characters of a class, if there are so many. -/
def numbers? (count : Nat) (separator : Char) (text : Chars) : Option (List Nat) :=
  let parts := Chars.splitOn separator text
  if parts.length = count && parts.all Chars.isNumber then some (parts.map Chars.digitsValue)
  else none

def timeOfDay? (text : Chars) : Option (Nat × Nat × Nat) :=
  match numbers? 2 ':' text, numbers? 3 ':' text with
  | some [hour, minute], _ => if hour < 24 && minute < 60 then some (hour, minute, 0) else none
  | _, some [hour, minute, second] =>
      if hour < 24 && minute < 60 && second < 60 then some (hour, minute, second) else none
  | _, _ => none

def date? (text : Chars) : Option (Nat × Nat × Nat) := do
  match numbers? 3 '-' text with
  | some [year, month, day] =>
      if 0 < month && month < 13 && 0 < day &&
          Calendar.ofDay (Calendar.dayNumber year month day) = (Int.ofNat year, month, day) then
        some (year, month, day)
      else none
  | _ => none

def seconds? (text : Chars) : Option Instant :=
  let (negative, digits) : Bool × Chars :=
    match text with
    | '-' :: digits => (true, digits)
    | digits => (false, digits)
  let (whole, part) := (Chars.cut? '.' digits).getD (digits, ['0'])
  if Chars.isNumber whole && Chars.isNumber part then
    let seconds := Int.ofNat (Chars.digitsValue whole)
    let micros := Chars.digitsValue ((Chars.padRight '0' 6 part).take 6)
    some (Calendar.ofSeconds (if negative then -seconds else seconds), micros)
  else none

def instant? (now : Instant) (text : Chars) : Option Instant :=
  match text with
  | '@' :: digits => seconds? digits
  | _ =>
      if ["", "now", "today"].any (fun word => text == word.toList) then some now
      else
        let text := if text.getLast? = some 'Z' then text.dropLast else text
        let (date, time) :=
          ((Chars.cut? ' ' text).orElse (fun _ => Chars.cut? 'T' text)).getD (text, "00:00".toList)
        match date? date, timeOfDay? time with
        | some (year, month, day), some (hour, minute, second) =>
            some ({ year, month, day, hour, minute, second }, 0)
        | _, _ => none

/-- The formats of how exactly a time is told, by their names. -/
def precisions : List (String × String) :=
  [("hours", "%FT%H+00:00"), ("minutes", "%FT%H:%M+00:00"), ("date", "%F"),
    ("seconds", "%FT%T+00:00"), ("ns", "%FT%T,%N+00:00")]

/-- The formats of how exactly a time is told with a blank. -/
def spacedPrecisions : List (String × String) :=
  [("date", "%F"), ("seconds", "%F %T+00:00"), ("ns", "%F %T.%N+00:00")]

def formatOf? (option : Char × Option Chars) : Task (Option String) := do
  let pick (name : String) (formats : List (String × String)) (word : Chars) :
      Task (Option String) := do
    let place ← choose 1 name.toList (formats.map (fun entry => [entry.1])) word
    return (formats[place]?).map Prod.snd
  match option with
  | ('R', _) => return some "%a, %d %b %Y %H:%M:%S +0000"
  | ('I', word) => pick "--iso-8601" precisions (word.getD "date".toList)
  | ('\x01', word) => pick "--rfc-3339" spacedPrecisions (word.getD [])
  | _ => return none

def present : Task Instant := do
  match ← Work.expectNumber .clock with
  | .ok micros => return Calendar.ofClock micros
  | .error _ => return Calendar.ofClock 0

/-- Writes the date and the time of day. -/
def run (words : List Chars) : Task Unit := do
  let flags :=
    [given 'd' ["date"], given 'r' ["reference"], flag 'u' ["utc", "universal", "uct"],
      flag 'R' ["rfc-email", "rfc-822", "rfc-2822"],
      { letter := 'I', names := ["iso-8601"], giving := .wordIfJoined }, given '\x01' ["rfc-3339"]]
  let arguments ← readArguments { flags } words
  let asked ← (arguments.options.mapM formatOf? : Task _)
  let asked := asked.filterMap id
  if 1 < asked.length then Task.fail 1 "multiple output formats specified".toList
  let isFormat (word : Chars) : Bool := word.head? = some '+'
  let format ←
    match arguments.operands with
    | _ :: extra :: _ => Task.misuse 1 ("extra operand ".toList ++ marked extra)
    | [word] =>
        if !isFormat word then Task.fail 1 ("invalid date ".toList ++ marked word)
        if !asked.isEmpty then Task.fail 1 "multiple output formats specified".toList
        pure (word.drop 1)
    | [] => pure ((asked.head?).getD "%a %b %e %H:%M:%S %Z %Y").toList
  let now ← present
  let (calendar, micros) ←
    match arguments.value? 'd', arguments.value? 'r' with
    | some text, _ =>
        match instant? now text with
        | some instant => pure instant
        | none => Task.fail 1 ("invalid date ".toList ++ marked text)
    | none, some path =>
        match ← Work.inspect path true with
        | .ok info => pure (Calendar.ofClock info.changed)
        | .error obstacle => Task.fail 1 (shownName path ++ ": ".toList ++ obstacle.text.toList)
    | none, none => pure now
  Task.line (calendar.write micros format)

end Dating
end Utility
end Machine
end AstLink
