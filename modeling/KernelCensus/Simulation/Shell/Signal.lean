/-
# Signals

Signals have numbers and names.  Most of them end a process that has not arranged for them.
-/
import KernelCensus.Host.Program
import KernelCensus.Simulation.Number.Numeral

namespace KernelCensus

namespace Shell

/-- One more than the greatest number of a signal. -/
def signalCount : Nat := 65

/-- The name of a signal; zero is the end of the shell, and a few have only a number. -/
def signalName (number : Nat) : Octets :=
  if number = 0 then "EXIT".toList
  else
    match signalNames[number - 1]? with
    | some "STKFLT" => Octets.ofNat number
    | some name => name.toList
    | none =>
      if number = 34 then "RTMIN".toList
      else if number = 64 then "RTMAX".toList
      else if 34 < number && number < 50 then "RTMIN+".toList ++ Octets.ofNat (number - 34)
      else if 50 ≤ number && number < 64 then "RTMAX-".toList ++ Octets.ofNat (64 - number)
      else Octets.ofNat number

/-- The signal that a number spells. -/
def signalNumber? (text : Octets) : Option Nat :=
  let number := Numeral.valueOf 10 text
  if !text.isEmpty && text.all Char.isDigit && number < signalCount then some number else none

/-- The signal that a number or a name spells, from a least one on. -/
def signal? (least : Nat) (text : Octets) : Option Nat :=
  match signalNumber? text with
  | some number => some number
  | none =>
    (List.range signalCount).find? fun number =>
      least ≤ number && signalName number == text.map Char.toUpper

/-- A signal in words. -/
def signalText (number : Nat) : Octets :=
  match number with
  | 1 => "Hangup".toList
  | 2 => "Interrupt".toList
  | 3 => "Quit".toList
  | 4 => "Illegal instruction".toList
  | 5 => "Trace/breakpoint trap".toList
  | 6 => "Aborted".toList
  | 7 => "Bus error".toList
  | 8 => "Floating point exception".toList
  | 9 => "Killed".toList
  | 10 => "User defined signal 1".toList
  | 11 => "Segmentation fault".toList
  | 12 => "User defined signal 2".toList
  | 13 => "Broken pipe".toList
  | 14 => "Alarm clock".toList
  | 15 => "Terminated".toList
  | 16 => "Stack fault".toList
  | 24 => "CPU time limit exceeded".toList
  | 25 => "File size limit exceeded".toList
  | 26 => "Virtual timer expired".toList
  | 27 => "Profiling timer expired".toList
  | 29 => "I/O possible".toList
  | 30 => "Power failure".toList
  | 31 => "Bad system call".toList
  | number =>
    if 34 ≤ number && number ≤ 64 then "Real-time signal ".toList ++ Octets.ofNat (number - 34)
    else "Unknown signal ".toList ++ Octets.ofNat number

/-- Whether a signal ends a process that has not arranged for it. -/
def isDeadly (number : Nat) : Bool :=
  !([0, 17, 18, 19, 20, 21, 22, 23, 28] : List Nat).contains number

end Shell

end KernelCensus
