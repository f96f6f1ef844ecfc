namespace AstLink

/-!
Wait statuses.  The system reports how a process ended as one 32-bit word: its low seven bits are
zero for a normal exit, whose code is the next byte; all ones for a process that has not ended;
and otherwise the number of the signal that ended it.

The wrapper ends as its compiler did.  A normal exit keeps its code, a signal becomes
`128 + signal`, and anything else counts as a failure of the wrapper.
-/

/-- How a process ended, as the system's word. -/
structure WaitStatus where
  raw : Int32
  deriving DecidableEq, Repr

namespace WaitStatus

def exited (code : UInt8) : WaitStatus := ⟨(code.toUInt32 <<< 8).toInt32⟩

def killed (signal : UInt8) : WaitStatus := ⟨(signal.toUInt32 &&& 0x7f).toInt32⟩

def word (status : WaitStatus) : UInt32 := status.raw.toUInt32

/-- The bits that tell an exit from a signal. -/
def ending (status : WaitStatus) : UInt32 := status.word &&& 0x7f

def code? (status : WaitStatus) : Option Int32 :=
  if status.ending = 0 then some ((status.word >>> 8) &&& 0xff).toInt32 else none

def signal? (status : WaitStatus) : Option Int32 :=
  if status.ending = 0 ∨ status.ending = 0x7f then none else some status.ending.toInt32

def isSuccess (status : WaitStatus) : Bool := status.code? = some 0

def dumpedCore (status : WaitStatus) : Bool := status.signal?.isSome && status.word &&& 0x80 != 0

def failure : Int32 := 1

def signalBase : Int32 := 128

def exitCode (status : WaitStatus) : Int32 :=
  match status.code? with
  | some code => code
  | none =>
      match status.signal? with
      | some signal => signalBase + signal
      | none => failure

/-! ## Texts -/

def signalNames : List String :=
  ["HUP", "INT", "QUIT", "ILL", "TRAP", "ABRT", "BUS", "FPE", "KILL", "USR1", "SEGV", "USR2",
    "PIPE", "ALRM", "TERM", "STKFLT", "CHLD", "CONT", "STOP", "TSTP", "TTIN", "TTOU", "URG",
    "XCPU", "XFSZ", "VTALRM", "PROF", "WINCH", "IO", "PWR", "SYS"]

/-- A signal's number, followed by its name if it has one. -/
def showSignal (signal : Nat) : String :=
  match signal with
  | 0 => "0"
  | number + 1 =>
      match signalNames[number]? with
      | some name => toString signal ++ " (SIG" ++ name ++ ")"
      | none => toString signal

def hex (word : UInt32) : String := String.ofList (Nat.toDigits 16 word.toNat)

def render (status : WaitStatus) : String :=
  match status.code? with
  | some code => "exit status: " ++ toString code.toInt
  | none =>
      match status.signal? with
      | some signal =>
          "signal: " ++ showSignal signal.toInt.toNat ++
            (if status.dumpedCore then " (core dumped)" else "")
      | none =>
          if status.word &&& 0xff = 0x7f then
            "stopped (not terminated) by signal: " ++
              showSignal ((status.word >>> 8) &&& 0xff).toNat
          else if status.word = 0xffff then "continued (WIFCONTINUED)"
          else "unrecognised wait status: " ++ toString status.raw.toInt ++ " 0x" ++ hex status.word

end WaitStatus

/-- The byte of an exit code that reaches the parent process. -/
def exitByte (code : Int32) : UInt8 := (code &&& 0xff).toUInt32.toUInt8

end AstLink
