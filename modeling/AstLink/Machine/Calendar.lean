import AstLink.Machine.Chars

namespace AstLink
namespace Machine

/-!
Dates and times of day, as they follow from counting seconds since the beginning of the year 1970,
and how they are written.
-/

/-- A date, and a time of day. -/
structure Calendar where
  year : Int
  month : Nat
  day : Nat
  hour : Nat
  minute : Nat
  second : Nat
  deriving DecidableEq, Repr

namespace Calendar

def secondsPerDay : Nat := 86400

/-- How many days four hundred years have. -/
def daysPerCycle : Int := 146097

/-- The day on which a year begins that is counted from March on, four hundred years being a cycle.
Day 0 is the first one of March in the year 0. -/
def startOfYear (year : Int) : Int := 365 * year + year.fdiv 4 - year.fdiv 100 + year.fdiv 400

/-- How many days there are from March on before a month that is counted from March on. -/
def daysBefore (month : Nat) : Nat := (153 * month + 2) / 5

def epochDay : Int := 719468

def dayNumber (year : Int) (month day : Nat) : Int :=
  let (year, month) := if month < 3 then (year - 1, month + 9) else (year, month - 3)
  startOfYear year + Int.ofNat (daysBefore month + day) - 1 - epochDay

def ofDay (number : Int) : Int × Nat × Nat :=
  let days := number + epochDay
  let guess := (400 * days).fdiv daysPerCycle
  let year :=
    if days < startOfYear guess then guess - 1
    else if startOfYear (guess + 1) ≤ days then guess + 1
    else guess
  let rest := (days - startOfYear year).toNat
  let month := (5 * rest + 2) / 153
  let day := rest - daysBefore month + 1
  if month < 10 then (year, month + 3, day) else (year + 1, month - 9, day)

/-- The date and the time of day at a second. -/
def ofSeconds (seconds : Int) : Calendar :=
  let (year, month, day) := ofDay (seconds.fdiv secondsPerDay)
  let rest := (seconds.fmod secondsPerDay).toNat
  { year, month, day, hour := rest / 3600, minute := rest / 60 % 60, second := rest % 60 }

def dayOf (calendar : Calendar) : Int := dayNumber calendar.year calendar.month calendar.day

/-- The second of a date and a time of day. -/
def toSeconds (calendar : Calendar) : Int :=
  calendar.dayOf * secondsPerDay +
    Int.ofNat (calendar.hour * 3600 + calendar.minute * 60 + calendar.second)

def weekday (calendar : Calendar) : Nat := ((calendar.dayOf + 4).fmod 7).toNat

def dayOfYear (calendar : Calendar) : Nat := (calendar.dayOf - dayNumber calendar.year 1 1).toNat

/-- The names of the days of the week. -/
def weekdays : List String :=
  ["Sunday", "Monday", "Tuesday", "Wednesday", "Thursday", "Friday", "Saturday"]

def months : List String :=
  ["January", "February", "March", "April", "May", "June", "July", "August", "September", "October",
    "November", "December"]

/-- The week of the year, and the year to which it counts; a week counts to the year of its
Thursday. -/
def week (calendar : Calendar) : Int × Nat :=
  let day := calendar.dayOf
  let thursday := day - (day + 3).fmod 7 + 3
  let (year, _, _) := ofDay thursday
  (year, ((thursday - dayNumber year 1 1).toNat) / 7 + 1)

def hourOfTwelve (calendar : Calendar) : Nat :=
  if calendar.hour % 12 = 0 then 12 else calendar.hour % 12

/-- A number with at least so many characters. -/
def padded (filler : Char) (width : Nat) (number : Int) : Chars :=
  let digits := Chars.padLeft filler width (Chars.ofNat number.natAbs)
  if number < 0 then '-' :: digits else digits

/-- What a letter of a format stands for that stands for other letters. -/
def shorthands : List (Char × String) :=
  [('c', "%a %b %e %H:%M:%S %Y"), ('D', "%m/%d/%y"), ('F', "%Y-%m-%d"), ('r', "%I:%M:%S %p"),
    ('R', "%H:%M"), ('T', "%H:%M:%S"), ('x', "%m/%d/%y"), ('X', "%H:%M:%S"), ('h', "%b")]

/-- How many characters a number has under a letter of a format, what it is filled up with, and the
number. -/
def number? (calendar : Calendar) (micros : Nat) : Char -> Option (Nat × Char × Int)
  | 'C' => some (2, '0', calendar.year.fdiv 100)
  | 'd' => some (2, '0', calendar.day)
  | 'e' => some (2, ' ', calendar.day)
  | 'g' => some (2, '0', calendar.week.1.fmod 100)
  | 'G' => some (4, '0', calendar.week.1)
  | 'H' => some (2, '0', calendar.hour)
  | 'I' => some (2, '0', calendar.hourOfTwelve)
  | 'j' => some (3, '0', calendar.dayOfYear + 1)
  | 'k' => some (2, ' ', calendar.hour)
  | 'l' => some (2, ' ', calendar.hourOfTwelve)
  | 'm' => some (2, '0', calendar.month)
  | 'M' => some (2, '0', calendar.minute)
  | 'N' => some (9, '0', micros * 1000)
  | 'q' => some (1, '0', (calendar.month + 2) / 3)
  | 's' => some (1, '0', calendar.toSeconds)
  | 'S' => some (2, '0', calendar.second)
  | 'u' => some (1, '0', if calendar.weekday = 0 then 7 else calendar.weekday)
  | 'U' => some (2, '0', (calendar.dayOfYear + 7 - calendar.weekday) / 7)
  | 'V' => some (2, '0', calendar.week.2)
  | 'w' => some (1, '0', calendar.weekday)
  | 'W' => some (2, '0', (calendar.dayOfYear + 7 - (calendar.weekday + 6) % 7) / 7)
  | 'y' => some (2, '0', calendar.year.fmod 100)
  | 'Y' => some (4, '0', calendar.year)
  | _ => none

/-- The text that a letter of a format stands for, if it is no number. -/
def name? (calendar : Calendar) : Char -> Option Chars
  | 'A' => some (weekdays.getD calendar.weekday "").toList
  | 'a' => some ((weekdays.getD calendar.weekday "").toList.take 3)
  | 'B' => some (months.getD (calendar.month - 1) "").toList
  | 'b' => some ((months.getD (calendar.month - 1) "").toList.take 3)
  | 'p' => some (if calendar.hour < 12 then "AM" else "PM").toList
  | 'P' => some (if calendar.hour < 12 then "am" else "pm").toList
  | 'Z' => some "UTC".toList
  | 'z' => some "+0000".toList
  | 'n' => some ['\n']
  | 't' => some ['\t']
  | '%' => some ['%']
  | _ => none

/-- A date and a time of day in a format.  `micros` are the parts of a second; a letter that stands
for nothing is kept. -/
def format (calendar : Calendar) (micros : Nat) : Nat -> Chars -> Chars
  | 0, _ | _, [] => []
  | bound + 1, '%' :: rest =>
      let flags := rest.takeWhile "-_0^#+".toList.contains
      let rest := rest.drop flags.length
      let width := rest.takeWhile Char.isDigit
      match rest.drop width.length with
      | [] => '%' :: rest
      | letter :: after =>
          let wanted := Chars.digitsValue width
          let flag := flags.getLast?
          let text : Option Chars :=
            match calendar.number? micros letter, calendar.name? letter with
            | some (usual, filler, number), _ =>
                let filler :=
                  if flag = some '_' then ' ' else if flag = some '0' then '0' else filler
                let least :=
                  if flag = some '-' then 0 else if width.isEmpty then usual else wanted
                if letter = 'N' then
                  some ((padded '0' 9 number).take (if width.isEmpty then 9 else wanted))
                else some (padded filler least number)
            | none, some name =>
                let name :=
                  if flag = some '^' then name.map Char.toUpper
                  else if flag = some '#' && letter = 'Z' then Chars.lower name
                  else if flag = some '#' && letter != 'P' then name.map Char.toUpper
                  else name
                some (Chars.padLeft (if flag = some '0' then '0' else ' ') wanted name)
            | none, none =>
                (shorthands.lookup letter).map (fun format =>
                  calendar.format micros bound format.toList)
          text.getD ('%' :: flags ++ width ++ [letter]) ++ calendar.format micros bound after
  | bound + 1, char :: rest => char :: calendar.format micros bound rest

def write (calendar : Calendar) (micros : Nat) (format : Chars) : Chars :=
  calendar.format micros (format.length + 32) format

/-- The second at which the clock of the machine begins to count. -/
def beginning : Int := dayNumber 2026 1 1 * secondsPerDay

/-- The date and the time of day that the clock of the machine shows, and the parts of a second. -/
def ofClock (micros : Nat) : Calendar × Nat :=
  (ofSeconds (beginning + Int.ofNat (micros / 1000000)), micros % 1000000)

end Calendar

end Machine
end AstLink
