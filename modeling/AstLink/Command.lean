import AstLink.Invocation

namespace AstLink

/-!
A command as it is handed to the operating system, which takes arguments as strings that end at
their first NUL.  A word that holds a NUL therefore has no such form.  It is replaced by a marker,
and the command remembers that it must not be started.
-/

/-- A command that is ready to be started, unless a word of it held a NUL. -/
structure Command where
  program : Bytes
  args : List Bytes
  heldNul : Bool
  deriving DecidableEq, Repr

namespace Command

/-- What stands in place of a word that holds a NUL. -/
def nulMarker : Bytes := Text.bytes "<string-with-nul>"

def word (bytes : Bytes) : Bytes := if Bytes.hasNul bytes then nulMarker else bytes

def words (command : Command) : List Bytes := command.program :: command.args

end Command

def Invocation.command (invocation : Invocation) : Command where
  program := Command.word invocation.compiler.bytes
  args := invocation.compilerArgs.map Command.word
  heldNul := invocation.argv.any Bytes.hasNul

end AstLink
