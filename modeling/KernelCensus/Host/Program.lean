/-
# Programs and how they end

A program is found by name and started with arguments.  It ends with an exit code or by a
signal, and leaves the bytes it wrote to its two outputs.
-/
import KernelCensus.Cause
import KernelCensus.Path

namespace KernelCensus

/-! ## Ends -/

/-- The names of the signals, from signal 1 on. -/
def signalNames : List String :=
  ["HUP", "INT", "QUIT", "ILL", "TRAP", "ABRT", "BUS", "FPE", "KILL", "USR1", "SEGV", "USR2",
    "PIPE", "ALRM", "TERM", "STKFLT", "CHLD", "CONT", "STOP", "TSTP", "TTIN", "TTOU", "URG",
    "XCPU", "XFSZ", "VTALRM", "PROF", "WINCH", "IO", "PWR", "SYS"]

/-- How a program ended: with a code, or by a signal, which may have left a dump of its memory. -/
inductive ExitStatus
  | exited (code : Nat)
  | killed (signal : Nat) (dumped : Bool)
  deriving DecidableEq, Repr

namespace ExitStatus

/-- Only an exit with code zero is a success. -/
def isSuccess : ExitStatus → Bool
  | exited code => code == 0
  | killed _ _ => false

/-- A signal in words: its number, and its name if it has one. -/
def signalText : Nat → String
  | 0 => "signal: 0"
  | above + 1 =>
    match signalNames[above]? with
    | some name => s!"signal: {above + 1} (SIG{name})"
    | none => s!"signal: {above + 1}"

/-- The end in words. -/
def text : ExitStatus → String
  | exited code => s!"exit status: {code}"
  | killed signal false => signalText signal
  | killed signal true => signalText signal ++ " (core dumped)"

end ExitStatus

/-! ## Runs -/

/-- What a finished program leaves behind. -/
structure ProgramOutput where
  status : ExitStatus
  stdout : List UInt8
  stderr : List UInt8
  deriving DecidableEq, Repr

/-- Access to programs: looking one up by name, and running what was found with arguments.  A
program that is not found, or cannot be started, comes with the cause. -/
structure Programs where
  find : String → Except Cause Path
  run : Path → List String → Except IoError ProgramOutput

end KernelCensus
