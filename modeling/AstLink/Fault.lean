namespace AstLink

/-!
Faults of the operating system and of streams.  A fault has a *kind*, by which a program decides
what to do next, and a message, which it shows.  The two are independent: a fault made from a kind
alone has that kind's own message, while a fault that the system reports by number has the
system's message, and several numbers may share a kind.
-/

inductive Fault.Kind where
  | notFound
  | permissionDenied
  | connectionRefused
  | connectionReset
  | hostUnreachable
  | networkUnreachable
  | connectionAborted
  | notConnected
  | addrInUse
  | addrNotAvailable
  | networkDown
  | brokenPipe
  | alreadyExists
  | wouldBlock
  | notADirectory
  | isADirectory
  | directoryNotEmpty
  | readOnlyFilesystem
  | staleNetworkFileHandle
  | invalidInput
  | invalidData
  | timedOut
  | writeZero
  | storageFull
  | notSeekable
  | quotaExceeded
  | fileTooLarge
  | resourceBusy
  | executableFileBusy
  | deadlock
  | tooManyLinks
  | argumentListTooLong
  | interrupted
  | unsupported
  | unexpectedEof
  | outOfMemory
  | other
  | crossesDevices
  | filesystemLoop
  | invalidFilename
  | inProgress
  | inputOutputError
  | tooManyOpenFiles
  | uncategorized
  deriving DecidableEq, Repr

/-- What a kind of fault is called when nothing more is known. -/
def Fault.Kind.message : Fault.Kind -> String
  | .notFound => "entity not found"
  | .permissionDenied => "permission denied"
  | .connectionRefused => "connection refused"
  | .connectionReset => "connection reset"
  | .hostUnreachable => "host unreachable"
  | .networkUnreachable => "network unreachable"
  | .connectionAborted => "connection aborted"
  | .notConnected => "not connected"
  | .addrInUse => "address in use"
  | .addrNotAvailable => "address not available"
  | .networkDown => "network down"
  | .brokenPipe => "broken pipe"
  | .alreadyExists => "entity already exists"
  | .wouldBlock => "operation would block"
  | .notADirectory => "not a directory"
  | .isADirectory => "is a directory"
  | .directoryNotEmpty => "directory not empty"
  | .readOnlyFilesystem => "read-only filesystem or storage medium"
  | .staleNetworkFileHandle => "stale network file handle"
  | .invalidInput => "invalid input parameter"
  | .invalidData => "invalid data"
  | .timedOut => "timed out"
  | .writeZero => "write zero"
  | .storageFull => "no storage space"
  | .notSeekable => "seek on unseekable file"
  | .quotaExceeded => "quota exceeded"
  | .fileTooLarge => "file too large"
  | .resourceBusy => "resource busy"
  | .executableFileBusy => "executable file busy"
  | .deadlock => "deadlock"
  | .tooManyLinks => "too many links"
  | .argumentListTooLong => "argument list too long"
  | .interrupted => "operation interrupted"
  | .unsupported => "unsupported"
  | .unexpectedEof => "unexpected end of file"
  | .outOfMemory => "out of memory"
  | .other => "other error"
  | .crossesDevices => "cross-device link or rename"
  | .filesystemLoop => "filesystem loop or indirection limit (e.g. symlink loop)"
  | .invalidFilename => "invalid filename"
  | .inProgress => "in progress"
  | .inputOutputError => "input/output error"
  | .tooManyOpenFiles => "too many open files"
  | .uncategorized => "uncategorized error"

/-- A fault: what kind it is, and what is said about it. -/
structure Fault where
  kind : Fault.Kind
  message : String
  deriving DecidableEq, Repr

namespace Fault

def ofKind (kind : Kind) : Fault := ⟨kind, kind.message⟩

/-- A stream that accepts no byte of what it is offered cannot be written to the end. -/
def writeZero : Fault := ⟨.writeZero, "failed to write whole buffer"⟩

/-- A command with a NUL in one of its words cannot be handed to the system. -/
def nulByte : Fault := ⟨.invalidInput, "nul byte found in provided data"⟩

/-- Whether the operation was merely broken off and may be tried again. -/
def isInterrupted (fault : Fault) : Bool := fault.kind = .interrupted

end Fault

end AstLink
