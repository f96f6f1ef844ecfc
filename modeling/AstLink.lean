import AstLink.Bytes
import AstLink.Command
import AstLink.CommandLine
import AstLink.CommandLine.Refusal
import AstLink.CommandLine.Word
import AstLink.Fault
import AstLink.Fault.Numbered
import AstLink.Invocation
import AstLink.Log.Directive
import AstLink.Log.Event
import AstLink.Log.Field
import AstLink.Log.Filter
import AstLink.Log.Level
import AstLink.Log.Table
import AstLink.Machine
import AstLink.Machine.Activity
import AstLink.Machine.Calendar
import AstLink.Machine.Chars
import AstLink.Machine.Condition
import AstLink.Machine.Format
import AstLink.Machine.Kernel
import AstLink.Machine.Loader
import AstLink.Machine.Obstacle
import AstLink.Machine.Permission
import AstLink.Machine.Real
import AstLink.Machine.Regex.Basic
import AstLink.Machine.Regex.Match
import AstLink.Machine.Regex.Reader
import AstLink.Machine.Shell.Arithmetic
import AstLink.Machine.Shell.Builtin.Command
import AstLink.Machine.Shell.Builtin.Output
import AstLink.Machine.Shell.Builtin.Process
import AstLink.Machine.Shell.Builtin.Setting
import AstLink.Machine.Shell.Descriptor
import AstLink.Machine.Shell.Evaluator
import AstLink.Machine.Shell.Expansion
import AstLink.Machine.Shell.Field
import AstLink.Machine.Shell.Job
import AstLink.Machine.Shell.Lexer
import AstLink.Machine.Shell.Pattern
import AstLink.Machine.Shell.Reader
import AstLink.Machine.Shell.Redirection
import AstLink.Machine.Shell.Script
import AstLink.Machine.Shell.Search
import AstLink.Machine.Shell.Session
import AstLink.Machine.Shell.Syntax
import AstLink.Machine.Shell.Token
import AstLink.Machine.Signal
import AstLink.Machine.Tool
import AstLink.Machine.Tree
import AstLink.Machine.Utility
import AstLink.Machine.Utility.Characters
import AstLink.Machine.Utility.Columns
import AstLink.Machine.Utility.Comparing
import AstLink.Machine.Utility.Console
import AstLink.Machine.Utility.Copying
import AstLink.Machine.Utility.Dating
import AstLink.Machine.Utility.Describing
import AstLink.Machine.Utility.Dumping
import AstLink.Machine.Utility.Duplicating
import AstLink.Machine.Utility.Editing
import AstLink.Machine.Utility.Editing.Script
import AstLink.Machine.Utility.Expression
import AstLink.Machine.Utility.Files
import AstLink.Machine.Utility.Finding
import AstLink.Machine.Utility.Finding.Expression
import AstLink.Machine.Utility.Folding
import AstLink.Machine.Utility.Gathering
import AstLink.Machine.Utility.Identity
import AstLink.Machine.Utility.Judging
import AstLink.Machine.Utility.Launching
import AstLink.Machine.Utility.Linking
import AstLink.Machine.Utility.Listing
import AstLink.Machine.Utility.Listing.Layout
import AstLink.Machine.Utility.Making
import AstLink.Machine.Utility.Naming
import AstLink.Machine.Utility.Numbering
import AstLink.Machine.Utility.Paths
import AstLink.Machine.Utility.Permitting
import AstLink.Machine.Utility.Removing
import AstLink.Machine.Utility.Repeating
import AstLink.Machine.Utility.Saying
import AstLink.Machine.Utility.Searching
import AstLink.Machine.Utility.Sequence
import AstLink.Machine.Utility.Signalling
import AstLink.Machine.Utility.Sizing
import AstLink.Machine.Utility.Sorting
import AstLink.Machine.Utility.Sorting.Order
import AstLink.Machine.Utility.Source
import AstLink.Machine.Utility.Temporary
import AstLink.Machine.Utility.Viewing
import AstLink.Machine.Utility.Wrapping
import AstLink.Machine.Work
import AstLink.Main
import AstLink.MergeError
import AstLink.Path
import AstLink.Program
import AstLink.Proofs.CommandLine.Acceptance
import AstLink.Proofs.CommandLine.Diagnosis
import AstLink.Proofs.CommandLine.Escape
import AstLink.Proofs.CommandLine.Leading
import AstLink.Proofs.CommandLine.Options
import AstLink.Proofs.Invocation.Argv
import AstLink.Proofs.Invocation.Display
import AstLink.Proofs.Invocation.Equality
import AstLink.Proofs.Lists
import AstLink.Proofs.Log.Breakdown
import AstLink.Proofs.Log.Precedence
import AstLink.Proofs.Log.Reading
import AstLink.Proofs.Log.Table
import AstLink.Proofs.Machine.Host
import AstLink.Proofs.Machine.Requests
import AstLink.Proofs.Machine.Runs
import AstLink.Proofs.Path.Canonical
import AstLink.Proofs.Program.Diagnostics
import AstLink.Proofs.Program.Elements
import AstLink.Proofs.Program.ExitCode
import AstLink.Proofs.Program.LogFilter
import AstLink.Proofs.Relay.Accounting
import AstLink.Proofs.Relay.Bounds
import AstLink.Proofs.Relay.Flushing
import AstLink.Proofs.Relay.Interruption
import AstLink.Proofs.Relay.Lossless
import AstLink.Proofs.Relay.Promptness
import AstLink.Proofs.Relay.Turns
import AstLink.Proofs.Relay.WriterSide
import AstLink.Proofs.Run.Conduct
import AstLink.Proofs.Run.Outcome
import AstLink.Proofs.Run.Verbatim
import AstLink.Proofs.Status.Decoding
import AstLink.Proofs.Status.Narrowing
import AstLink.Proofs.Stream.Answers
import AstLink.Proofs.Stream.Cutting
import AstLink.Proofs.Stream.Delivery
import AstLink.Proofs.Stream.Ending
import AstLink.Proofs.Stream.Handing
import AstLink.Proofs.Stream.Reading
import AstLink.Proofs.Stream.Shown
import AstLink.Proofs.Stream.Signal
import AstLink.Proofs.Text.ShellWord
import AstLink.Proofs.Text.Utf8
import AstLink.Relay
import AstLink.Run
import AstLink.Status
import AstLink.Stream.Event
import AstLink.Stream.Line
import AstLink.Stream.Sink
import AstLink.Stream.Source
import AstLink.Text.Alphanumeric
import AstLink.Text.Blank
import AstLink.Text.ShellWord
import AstLink.Text.Similarity
import AstLink.Text.Terminal
import AstLink.Text.Utf8
