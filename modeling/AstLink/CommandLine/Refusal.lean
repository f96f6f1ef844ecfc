import AstLink.CommandLine.Word
import AstLink.Path
import AstLink.Text.Terminal

namespace AstLink
namespace CommandLine

/-!
Why no merge is made of a command line, and what is said instead.  Asking for help or for the
version is one of the reasons; it is no error, so its text goes to the standard output and the
exit code is zero.
-/

/-- Why a command line does not lead to a merge. -/
inductive Refusal where
  | help
  | version
  | missing (values : List Positional)
  | emptyValue (value : Positional)
  /-- `grouped` says that positional values had been taken before. -/
  | unexpectedValue (flag : Flag) (value : Bytes) (grouped : Bool)
  | unknownOption (text : String) (similar : Option Flag)
  deriving DecidableEq, Repr

/-- The refusal with which an option ends the reading. -/
def Flag.refusal : Flag -> Refusal
  | .help => .help
  | .version => .version

/-! ## Texts -/

def programName : String := "ast-merge"

def versionText : String := programName ++ " 0.1.0\n"

/-- The name by which messages call the program: the file name of the word it was started with, if
that is text. -/
def shownName (words : List Bytes) : String :=
  match words.head? with
  | none => programName
  | some word =>
      match (Path.fileName? ⟨word⟩).bind Text.Utf8.decode? with
      | some (char :: chars) => String.ofList (char :: chars)
      | _ => programName

def valuesShown : String := "<COMPILER> <TARGET> <PLACEHOLDER> [LIBRARIES]..."

def groupShown : String := "<COMPILER|TARGET|PLACEHOLDER|LIBRARIES>"

def usage (name : String) (flag : Option Flag) (values : String) : String :=
  let option :=
    match flag with
    | some flag => " --" ++ flag.name
    | none => ""
  "Usage: " ++ Text.visible name ++ option ++ " " ++ values ++ "\n"

def pointer : String := "For more information, try '--help'.\n"

def helpText (name : String) : String :=
  "Linker-style wrapper that merges precompiled ASTs with clang -cc1 -ast-merge\n\n" ++
  usage name none valuesShown ++
  "\nArguments:\n" ++
  "  <COMPILER>      Compiler executable to invoke (e.g. clang)\n" ++
  "  <TARGET>        Output path for the merged AST\n" ++
  "  <PLACEHOLDER>   Source path supplied by the build system. Accepted and ignored\n" ++
  "  [LIBRARIES]...  AST files to merge, in order. Passed through without option parsing\n" ++
  "\nOptions:\n" ++
  "  -h, --help     Print help\n" ++
  "  -V, --version  Print version\n"

namespace Refusal

def tip (text : String) (similar : Option Flag) : String :=
  match similar with
  | some flag => "  tip: a similar argument exists: '--" ++ flag.name ++ "'\n"
  | none =>
      "  tip: to pass '" ++ Text.visible text ++ "' as a value, use '-- " ++
        Text.visible text ++ "'\n"

/-- What is said, `name` being the name of the program.  Every text that the user supplied is shown
as a terminal would show it. -/
def message (name : String) : Refusal -> String
  | .help => helpText name
  | .version => versionText
  | .missing values =>
      "error: the following required arguments were not provided:\n" ++
        String.join (values.map (fun value => "  <" ++ value.name ++ ">\n")) ++
        "\n" ++ usage name none valuesShown ++ "\n" ++ pointer
  | .emptyValue value =>
      "error: a value is required for '<" ++ value.name ++ ">' but none was supplied\n\n" ++ pointer
  | .unexpectedValue flag value grouped =>
      "error: unexpected value '" ++ Text.visible (Text.shown value) ++ "' for '--" ++
        flag.name ++ "' found; no more were expected\n\n" ++
        usage name (some flag) (if grouped then groupShown else valuesShown) ++ "\n" ++ pointer
  | .unknownOption text similar =>
      "error: unexpected argument '" ++ Text.visible text ++ "' found\n\n" ++
        tip text similar ++ "\n" ++ usage name similar valuesShown ++ "\n" ++ pointer

def isAnswer : Refusal -> Bool
  | .help | .version => true
  | _ => false

def exitCode (refusal : Refusal) : Int32 := if refusal.isAnswer then 0 else 2

end Refusal

end CommandLine
end AstLink
