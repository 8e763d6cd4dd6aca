/-
# Limits

A process may use only so much of some resources.  A soft limit is in force, and may be raised up to
the hard one, which may only be lowered.  Limits are words of 64 bits, and the greatest word says
that there is no limit.
-/
import KernelCensus.Table

namespace KernelCensus

/-- What may be limited. -/
inductive Resource
  | time
  | fileSize
  | data
  | stack
  | core
  | memory
  | lockedMemory
  | processes
  | files
  | space
  | locks
  | priority
  deriving DecidableEq, Repr

/-- The limits of a resource. -/
structure Limit where
  soft : UInt64
  hard : UInt64
  deriving DecidableEq, Repr

/-- The limits of a process; a resource that is not listed has none. -/
abbrev Limits := List (Resource × Limit)

namespace Limit

/-- The word for no limit. -/
def unlimited : UInt64 := 0xFFFFFFFFFFFFFFFF

/-- Why a limit cannot be set. -/
inductive Refusal
  | softAboveHard
  | raised
  deriving DecidableEq, Repr

/-- The limit in the place of another one, if it can be set: the soft one is not above the hard one,
which is not raised. -/
def replace (old new : Limit) : Except Refusal Limit :=
  if new.hard < new.soft then .error .softAboveHard
  else if old.hard < new.hard then .error .raised
  else .ok new

end Limit

namespace Limits

/-- The limits of a resource. -/
def of (limits : Limits) (resource : Resource) : Limit :=
  (limits.lookup resource).getD ⟨Limit.unlimited, Limit.unlimited⟩

/-- How much of a resource may be used, if that is limited. -/
def bound? (limits : Limits) (resource : Resource) : Option Nat :=
  let soft := (limits.of resource).soft
  if soft = Limit.unlimited then none else some soft.toNat

/-- The limits of what a system starts. -/
def usual : Limits :=
  [(.stack, ⟨8388608, Limit.unlimited⟩), (.core, ⟨0, Limit.unlimited⟩),
    (.lockedMemory, ⟨8388608, 8388608⟩), (.processes, ⟨128619, 128619⟩),
    (.files, ⟨20000, 20000⟩), (.priority, ⟨0, 0⟩)]

end Limits

end KernelCensus
