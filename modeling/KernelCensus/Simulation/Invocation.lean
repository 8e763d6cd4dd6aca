/-
# Invocations

A program is started under a name, with arguments, an environment, a working directory,
descriptors, limits, and a mask of the permissions that new files do not get.
-/
import KernelCensus.Simulation.Limit
import KernelCensus.Simulation.FileTree

namespace KernelCensus

/-- The number of a process about which nothing is known. -/
def outerProcess : Nat := 100

/-- How a program is started, and by which process; it may have to ignore some signals.  The path is
that of the program, from the root; the number is that of its process if others know it. -/
structure Invocation where
  path : Octets := []
  name : Octets
  arguments : List Octets
  environment : List (Octets × Octets)
  here : List EntryName
  descriptors : List (Nat × Nat)
  ignored : List Nat := []
  limits : Limits := .usual
  mask : Nat := 0o022
  parent : Nat := outerProcess
  number : Option Nat := none

namespace Invocation

/-- The most characters of a title. -/
def maxTitle : Nat := 15

/-- What a process is called: like the file of its program, cut short. -/
def title (invocation : Invocation) : Octets :=
  ((Octets.split '/' invocation.path).getLast?.getD []).take maxTitle

/-- What the first lines on the state of a process say: what it is called, and its mask. -/
def status (invocation : Invocation) : List Octets :=
  let digits := Nat.toDigits 8 invocation.mask
  ["Name:\t".toList ++ invocation.title,
    "Umask:\t".toList ++ List.replicate (4 - digits.length) '0' ++ digits]

/-- The least number of a descriptor that is not open. -/
def freeDescriptor (invocation : Invocation) : Nat :=
  let free := (List.range (invocation.descriptors.length + 1)).find? fun descriptor =>
    (invocation.descriptors.lookup descriptor).isNone
  free.getD 0

/-- Whether one more descriptor may be open. -/
def mayOpen (invocation : Invocation) : Bool :=
  (invocation.limits.bound? .files).all (invocation.freeDescriptor < ·)

end Invocation

end KernelCensus
