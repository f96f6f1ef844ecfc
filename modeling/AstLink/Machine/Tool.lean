import AstLink.Text.Utf8

namespace AstLink
namespace Machine

/-!
The programs that come with the machine.  They are the ones that small scripts rely on; a file
tree holds them in the usual directories.
-/

/-- A program of the machine. -/
inductive Tool where
  | shell
  | baseName
  | directoryName
  | which
  | userName
  | identity
  | system
  | terminal
  | date
  | workingDirectory
  | bracket
  | echo
  | expression
  | printf
  | sequence
  | test
  | yes
  | cat
  | duplicate
  | dump
  | fold
  | head
  | numberLines
  | reverseChars
  | reverseLines
  | tail
  | tee
  | wordCount
  | cut
  | edit
  | paste
  | search
  | searchExtended
  | searchFixed
  | sort
  | translate
  | unique
  | compareBytes
  | compareLines
  | changeMode
  | copy
  | link
  | find
  | list
  | makeDirectory
  | makePipe
  | move
  | readLink
  | realPath
  | remove
  | unlink
  | removeDirectory
  | touch
  | temporary
  | describe
  | truncate
  | env
  | false
  | kill
  | printEnv
  | sleep
  | timeout
  | withoutTerminal
  | withImportance
  | inSession
  | withBuffers
  | true
  | withArguments
  deriving DecidableEq, Repr

namespace Tool

/-- Whether a program is a script, which knows itself by the path at which it was found. -/
def isScript (tool : Tool) : Bool := tool = .which

/-- The file names of the programs.  The shell goes by several names. -/
def named : List (String × Tool) :=
  [("sh", .shell), ("dash", .shell), ("bash", .shell), ("basename", .baseName),
    ("dirname", .directoryName), ("which", .which), ("whoami", .userName), ("id", .identity),
    ("uname", .system), ("tty", .terminal), ("date", .date), ("pwd", .workingDirectory),
    ("[", .bracket), ("echo", .echo), ("expr", .expression), ("printf", .printf),
    ("seq", .sequence), ("test", .test), ("yes", .yes), ("cat", .cat), ("dd", .duplicate),
    ("od", .dump), ("fold", .fold), ("head", .head), ("nl", .numberLines),
    ("rev", .reverseChars), ("tac", .reverseLines), ("tail", .tail), ("tee", .tee),
    ("wc", .wordCount), ("cut", .cut), ("sed", .edit), ("paste", .paste), ("grep", .search),
    ("egrep", .searchExtended), ("fgrep", .searchFixed), ("sort", .sort), ("tr", .translate),
    ("uniq", .unique), ("cmp", .compareBytes), ("comm", .compareLines), ("chmod", .changeMode),
    ("cp", .copy), ("find", .find), ("ln", .link), ("ls", .list), ("mkdir", .makeDirectory),
    ("mkfifo", .makePipe), ("mv", .move), ("readlink", .readLink), ("realpath", .realPath),
    ("rm", .remove), ("unlink", .unlink), ("rmdir", .removeDirectory), ("touch", .touch),
    ("mktemp", .temporary), ("stat", .describe), ("truncate", .truncate), ("env", .env),
    ("false", .false), ("kill", .kill), ("printenv", .printEnv), ("sleep", .sleep),
    ("timeout", .timeout), ("nohup", .withoutTerminal), ("nice", .withImportance),
    ("setsid", .inSession), ("stdbuf", .withBuffers), ("true", .true), ("xargs", .withArguments)]

end Tool

end Machine
end AstLink
