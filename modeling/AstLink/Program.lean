import AstLink.CommandLine
import AstLink.Fault.Numbered
import AstLink.Log.Filter
import AstLink.Run

namespace AstLink

/-!
The whole program.  A command line that asks for no merge is answered or refused before anything
else is looked at.  Otherwise the log filter is read, the merge is run, and the program ends as the
compiler did, or with the failure that kept it from running the compiler to its end.  A log filter
that cannot be cut into its pieces breaks the program down before the merge begins.

The standard output carries the compiler's output and the texts that were asked for; refusals, log
lines and failures go to the standard error.
-/

inductive Stdout where
  /-- Something that takes everything. -/
  | pipe
  /-- A device with no room left. -/
  | full
  /-- A pipe that nobody reads from. -/
  | closed
  deriving DecidableEq, Repr

/-- How a standard output behaves.  The program gives up at the first fault, so one is enough. -/
def Stdout.sink : Stdout -> Stream.Sink
  | .pipe => {}
  | .full => { writes := [.fault Fault.noSpace] }
  | .closed => { writes := [.fault Fault.noReader] }

namespace Program

/-- One message on the standard error. -/
inductive Message where
  | log (event : Log.Event)
  | text (text : String)
  deriving DecidableEq, Repr

/-- A message as it is written, with the time of a log line and the name of a process supplied. -/
def Message.render (clock : String) (name : Nat -> String) : Message -> String
  | .log event => event.render clock name
  | .text said => said

/-- What the program did: what passed at its streams and which commands were started, the messages
on its standard error, and its exit code. -/
structure Report where
  actions : List Run.Action
  messages : List Message
  exit : UInt8

def Report.streams (report : Report) : List Stream.Event :=
  report.actions.filterMap (fun action =>
    match action with
    | .stream event => some event
    | _ => none)

def Report.stdout (report : Report) : Bytes := Stream.Event.output report.streams

def Report.stderr (clock : String) (name : Nat -> String) (report : Report) : String :=
  String.join (report.messages.map (Message.render clock name))

def failureText (error : MergeError) : String := "Error: " ++ error.message ++ "\n"

/-- The end of a program whose command line asks for no merge.  A text that was asked for goes to
the standard output; whether it gets there makes no difference. -/
def refuse (words : List Bytes) (sink : Stream.Sink) (refusal : CommandLine.Refusal) : Report :=
  let text := refusal.message (CommandLine.shownName words)
  if refusal.isAnswer then
    { actions := (sink.forward (Text.bytes text)).events.map Run.Action.stream
      messages := []
      exit := exitByte refusal.exitCode }
  else
    { actions := [], messages := [.text text], exit := exitByte refusal.exitCode }

def exitCode : Except MergeError WaitStatus -> Int32
  | .ok status => status.exitCode
  | .error error => error.exitCode

def conclude (filter : Log.Filter) (run : Run.Report) : Report where
  actions := run.actions
  messages :=
    (run.log.filter filter.shows).map Message.log ++
      match run.outcome with
      | .ok _ => []
      | .error error => [.text (failureText error)]
  exit := exitByte (exitCode run.outcome)

def breakdownCode : Int32 := 101

def breakdownText : String := "a directive of the log filter is cut inside a character\n"

/-- The end of a program that broke down over its log filter: no compiler was started. -/
def breakdown : Report where
  actions := []
  messages := [.text breakdownText]
  exit := exitByte breakdownCode

/-- Runs the program on a command line, the name of the program first.  `setting` is what the
environment says about the log filter. -/
def run (words : List Bytes) (setting : Option Bytes) (host : Host) (sink : Stream.Sink)
    (values : Log.Values := .words) : Report :=
  match CommandLine.parse words with
  | .error refusal => refuse words sink refusal
  | .ok line =>
      match Log.Filter.ofSetting? setting values with
      | none => breakdown
      | some filter => conclude filter (line.invocation.run host sink)

end Program

end AstLink
