import AstLink.Machine.Calendar
import AstLink.Machine.Format
import AstLink.Machine.Permission
import AstLink.Machine.Utility.Files

namespace AstLink
namespace Machine
namespace Utility
namespace Describing

/-!
`stat`, which tells what can be found out about files.
-/

def kindName (info : Info) : Chars :=
  match info.sort with
  | .file => (if info.size = 0 then "regular empty file" else "regular file").toList
  | .directory => "directory".toList
  | .link => "symbolic link".toList
  | .device => "character special file".toList
  | .pipe => "fifo".toList

def kindBits : FileSort -> Nat
  | .file => 0o100000
  | .directory => 0o040000
  | .link => 0o120000
  | .device => 0o020000
  | .pipe => 0o010000

def kindLetter : FileSort -> Char
  | .file => '-'
  | .directory => 'd'
  | .link => 'l'
  | .device => 'c'
  | .pipe => 'p'

/-- How many blocks of 512 bytes a file takes. -/
def blocks (info : Info) : Nat :=
  match info.sort with
  | .file | .directory => (info.size + 4095) / 4096 * 8
  | _ => 0

/-- What is known about a file under a letter: a number in some base, or a text. -/
def fact (path : Chars) (info : Info) : Char -> Task (Option (Nat × Nat) × Chars)
  | 'a' => return (some (8, info.mode), [])
  | 'A' => return (none, kindLetter info.sort :: Permission.row info.mode)
  | 'b' => return (some (10, blocks info), [])
  | 'B' => return (some (10, 512), [])
  | 'f' => return (some (16, kindBits info.sort + info.mode), [])
  | 'F' => return (none, kindName info)
  | 'd' | 't' | 'T' | 'g' | 'u' => return (some (10, 0), [])
  | 'D' => return (some (16, 0), [])
  | 'G' | 'U' => return (none, "root".toList)
  | 'h' => return (some (10, info.links), [])
  | 'i' => return (some (10, info.identity), [])
  | 'm' => return (none, ['/'])
  | 'n' => return (none, path)
  | 'N' => do
      match info.sort with
      | .link =>
          let target := (← Work.expectText (.readLink path)).toOption.getD []
          return (none, marked path ++ " -> ".toList ++ marked target)
      | _ => return (none, marked path)
  | 'o' => return (some (10, 4096), [])
  | 's' => return (some (10, info.size), [])
  | 'X' | 'Y' | 'Z' | 'W' =>
      return (some (10, (Calendar.ofClock info.changed).1.toSeconds.toNat), [])
  | 'x' | 'y' | 'z' | 'w' => do
      let (calendar, micros) := Calendar.ofClock info.changed
      return (none, calendar.write micros "%F %T.%N +0000".toList)
  | _ => return (none, ['?'])

/-- What is known about a file under the letter of a conversion, as the conversion writes it. -/
def written (path : Chars) (info : Info) (conversion : Format.Conversion) : Task Chars := do
  let (number, text) ← fact path info conversion.kind
  match number with
  | none => return { conversion with flags := conversion.flags.filter (· != '0') }.text text
  | some (base, value) =>
      let kind := if base = 8 then 'o' else if base = 16 then 'x' else 'u'
      return { conversion with kind }.integer value

/-- Writes what is known about a file in a format; escapes are resolved if that is asked for. -/
def describe (escapes : Bool) (path : Chars) (info : Info) : Nat -> Chars -> Task Unit
  | 0, _ | _, [] => return
  | bound + 1, '%' :: rest => do
      let flags := rest.takeWhile "-+ #0\x27".toList.contains
      let rest := rest.drop flags.length
      let width := rest.takeWhile Char.isDigit
      let rest := rest.drop width.length
      let (precision, rest) : Option Nat × Chars :=
        match rest with
        | '.' :: rest =>
            let digits := rest.takeWhile Char.isDigit
            (some (Chars.digitsValue digits), rest.drop digits.length)
        | rest => (none, rest)
      match rest with
      | [] => Task.say ['%']
      | '%' :: rest =>
          Task.say ['%']
          describe escapes path info bound rest
      | kind :: rest =>
          Task.say
            (← written path info { flags, width := Chars.digitsValue width, precision, kind })
          describe escapes path info bound rest
  | bound + 1, '\\' :: rest => do
      let (char, count) := Format.escape rest
      if !escapes then
        Task.say ['\\']
        describe escapes path info bound rest
      else if 0 < count then
        Task.say [char]
        describe escapes path info bound (rest.drop count)
      else
        match rest with
        | [] => Task.complain "warning: backslash at end of format".toList
        | letter :: rest =>
            if letter != '"' then
              Task.complain
                ("warning: unrecognized escape \x27\\".toList ++ [letter, '\x27'])
            Task.say [letter]
            describe escapes path info bound rest
  | bound + 1, char :: rest => do
      Task.say [char]
      describe escapes path info bound rest

/-- The format that is used when none is given. -/
def usualFormat : Chars :=
  ("  File: %n\n  Size: %-10s\tBlocks: %-10b IO Block: %-6o %F\nDevice: 0,0\tInode: %-11i Links: %h\n" ++
    "Access: (%04a/%10.10A)  Uid: (%5u/%8U)   Gid: (%5g/%8G)\n" ++
    "Access: %x\nModify: %y\nChange: %z\n Birth: %w\n").toList

/-- Tells what is known about files. -/
def run (words : List Chars) : Task Unit := do
  let flags :=
    [given 'c' ["format"], given '\x01' ["printf"], flag 'L' ["dereference"],
      flag 't' ["terse"], flag 'f' ["file-system"], given '\x02' ["cached"]]
  let arguments ← readArguments { flags } words
  if arguments.operands.isEmpty then Task.misuse 1 "missing operand".toList
  let terse := "%n %s %b %f %u %g %D %i %h %t %T %X %Y %Z %W %o".toList
  let (format, escapes, isLine) : Chars × Bool × Bool :=
    match arguments.last? "c\x01" with
    | some 'c' => ((arguments.value? 'c').getD [], false, true)
    | some _ => ((arguments.value? '\x01').getD [], true, false)
    | none => if arguments.has 't' then (terse, false, true) else (usualFormat, false, false)
  for path in arguments.operands do
    let result ←
      if path = ['-'] then Work.inspectOpen 0 else Work.inspect path (arguments.has 'L')
    match result with
    | .error obstacle => cannot "cannot statx" path obstacle
    | .ok info =>
        let target := (← (Work.expectText (.readLink path) : Task _)).toOption
        let target := if escapes || isLine then none else target
        let name := path ++ (target.map (fun target => " -> ".toList ++ target)).getD []
        describe escapes name info (format.length + 1) format
        if isLine then Task.line []

end Describing
end Utility
end Machine
end AstLink
