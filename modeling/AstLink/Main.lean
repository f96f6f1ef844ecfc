import AstLink.Machine
import AstLink.Program
import Std.Time.DateTime

namespace AstLink
namespace CommandLine

/-!
The program on a command line.

A compiler runs on a machine, so the files that a merge may need are copied from the file system to
a machine before it begins: those in which the compiler may be found, and the libraries.  The
standard input is read as a whole as well, but only for a command line that asks for a merge.
Everything that is then to be seen of the run follows from these.
-/

/-- The paths of the files that a merge may need, each with whether it may be run. -/
def neededFiles (line : CommandLine) (searchPath : Bytes) : List (Bytes × Bool) :=
  let compiler := line.compiler.bytes
  let compilers :=
    if compiler.contains Bytes.slash then [compiler]
    else Machine.Loader.candidates searchPath compiler
  compilers.map (fun path => (path, true)) ++
    line.libraries.map (fun library => (library.bytes, false))

def readFile? (path : Bytes) : IO (Option Bytes) := do
  try return some (← IO.FS.readBinFile (Text.shown path)).toList
  catch _ => return none

def readSetting? (name : Bytes) : IO (Option Bytes) :=
  return (← IO.getEnv (Text.shown name)).map Text.bytes

def readMachine (line : CommandLine) : IO Machine := do
  let settings ← [Machine.pathName, Log.settingName].filterMapM (fun name => do
    return (← readSetting? name).map (fun value => (name, value)))
  let input := (← (← IO.getStdin).readBinToEnd).toList
  let working := Text.bytes (← IO.currentDir).toString
  let machine := Machine.empty (Machine.placeOf [] working) settings input
  let mut machine := machine
  for (path, executable) in line.neededFiles machine.searchPath do
    if let some content ← readFile? path then
      machine := machine.addFile path content executable
  return machine

/-- The time of a log line: date and time of day in millionths of a second, in universal time. -/
def clock (now : Std.Time.Timestamp) : String :=
  let digits (width : Nat) (value : Int) : String :=
    let text := (toString value).toList
    String.ofList (List.replicate (width - text.length) '0' ++ text)
  let moment : Std.Time.PlainDateTime := .ofWallTime (.ofDuration now.toDurationSinceUnixEpoch)
  let date := moment.date
  let time := moment.time
  digits 4 date.year.toInt ++ "-" ++ digits 2 date.month.val ++ "-" ++ digits 2 date.day.val ++
    "T" ++ digits 2 time.hour.val ++ ":" ++ digits 2 time.minute.val ++ ":" ++
    digits 2 time.second.val ++ "." ++ digits 6 (time.nanosecond.val / 1000) ++ "Z"

/-- What a standard output that failed must have been connected to. -/
def stdoutAfter : IO.Error -> Stdout
  | .resourceVanished .. => .closed
  | _ => .full

end CommandLine
end AstLink

open AstLink

/-- Runs the program on the words of its command line.  An output that fails is found out only when
it is written to; what the program says is then what it says about such an output. -/
def main (arguments : List String) : IO UInt32 := do
  let words := Text.bytes CommandLine.programName :: arguments.map Text.bytes
  let setting ← CommandLine.readSetting? Log.settingName
  let host : Host ←
    match CommandLine.parse words with
    | .ok line => pure (← line.readMachine).host
    | .error _ => pure { start := fun _ => .error Fault.noEntry }
  let attempt (stdout : Stdout) : Program.Report :=
    Program.run words setting host stdout.sink
  let report ←
    try
      let report := attempt .pipe
      let stdout ← IO.getStdout
      stdout.write (ByteArray.mk report.stdout.toArray)
      stdout.flush
      pure report
    catch failure => pure (attempt (CommandLine.stdoutAfter failure))
  IO.eprint (report.stderr (CommandLine.clock (← Std.Time.Timestamp.now)) toString)
  return report.exit.toUInt32
