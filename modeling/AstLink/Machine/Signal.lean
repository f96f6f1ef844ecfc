import AstLink.Machine.Chars
import AstLink.Status

namespace AstLink
namespace Machine
namespace Signal

/-!
Signals: their names and numbers, what they do to a process that has made no arrangements, and what
is said about a process that one of them ended.
-/

def largest : Nat := 64

/-- The signals that do nothing to a process that has made no arrangements for them, or do not end
it. -/
def harmless : List Nat := [17, 18, 19, 20, 21, 22, 23, 28]

/-- Whether a signal ends a process that has made no arrangements for it. -/
def isFatal (signal : Nat) : Bool :=
  0 < signal && signal ≤ largest && !harmless.contains signal

/-- A signal that ends processes. -/
structure Fatal where
  number : Nat
  isFatal : isFatal number = true
  deriving DecidableEq, Repr

/-- The signal that a process cannot escape. -/
def Fatal.kill : Fatal := ⟨9, by decide⟩

/-- The signal of a process that writes to a pipe from which nobody reads. -/
def Fatal.pipe : Fatal := ⟨13, by decide⟩

/-- The names of signals without `SIG`, by number from zero on, as shells know them. -/
def names : List String :=
  ["EXIT", "HUP", "INT", "QUIT", "ILL", "TRAP", "ABRT", "BUS", "FPE", "KILL", "USR1", "SEGV",
    "USR2", "PIPE", "ALRM", "TERM", "16", "CHLD", "CONT", "STOP", "TSTP", "TTIN", "TTOU",
    "URG", "XCPU", "XFSZ", "VTALRM", "PROF", "WINCH", "IO", "PWR", "SYS", "32", "33", "RTMIN",
    "RTMIN+1", "RTMIN+2", "RTMIN+3", "RTMIN+4", "RTMIN+5", "RTMIN+6", "RTMIN+7", "RTMIN+8",
    "RTMIN+9", "RTMIN+10", "RTMIN+11", "RTMIN+12", "RTMIN+13", "RTMIN+14", "RTMIN+15", "RTMAX-14",
    "RTMAX-13", "RTMAX-12", "RTMAX-11", "RTMAX-10", "RTMAX-9", "RTMAX-8", "RTMAX-7", "RTMAX-6",
    "RTMAX-5", "RTMAX-4", "RTMAX-3", "RTMAX-2", "RTMAX-1", "RTMAX"]

def name (signal : Nat) : String := names.getD signal (toString signal)

def description (signal : Nat) : String :=
  (["Unknown signal 0", "Hangup", "Interrupt", "Quit", "Illegal instruction",
    "Trace/breakpoint trap", "Aborted", "Bus error", "Floating point exception", "Killed",
    "User defined signal 1", "Segmentation fault", "User defined signal 2", "Broken pipe",
    "Alarm clock", "Terminated", "Stack fault", "Child exited", "Continued", "Stopped (signal)",
    "Stopped", "Stopped (tty input)", "Stopped (tty output)", "Urgent I/O condition",
    "CPU time limit exceeded", "File size limit exceeded", "Virtual timer expired",
    "Profiling timer expired", "Window changed", "I/O possible", "Power failure",
    "Bad system call"][signal]?).getD
    (if 34 ≤ signal && signal ≤ largest then "Real-time signal " ++ toString (signal - 34)
     else "Unknown signal " ++ toString signal)

/-- What a shell says when a command that it waited for was ended by a signal. -/
def notice? (signal : Nat) : Option String :=
  if signal = 2 || signal = 13 then none else some (description signal)

end Signal
end Machine
end AstLink
