/-
# Tasks

A task is what a shell started in the background: one process, or the stages of a pipeline.  Tasks
have numbers, and a number is used again for a later task.  A shell notices that a task has ended
when it waits for any process; once it has waited for that task itself, the number may be used
again.
-/
import KernelCensus.Host.Program

namespace KernelCensus

namespace Shell

/-- A task: its number, its processes with how they ended, and whether the shell noticed that and
has waited for it.  A process that goes on for ever has no end. -/
structure Task where
  number : Nat
  processes : List (Nat × Option ExitStatus)
  noticed : Bool := false
  waited : Bool := false

namespace Task

/-- Whether each process of a task has ended. -/
def hasEnded (task : Task) : Bool :=
  task.processes.all fun (_, ending) => ending.isSome

/-- How a task ended: like its last process. -/
def ending (task : Task) : ExitStatus :=
  ((task.processes.getLast?).bind Prod.snd).getD (.exited 0)

/-- The last process of a task, which stands for all of it. -/
def process (task : Task) : Nat :=
  ((task.processes.getLast?).map Prod.fst).getD 0

/-- The task after signals were sent to processes: one that goes on ends with the first signal of
its own. -/
def after (signals : List (Nat × Nat)) (task : Task) : Task :=
  { task with
    processes := task.processes.map fun (process, ending) =>
      (process, ending.or ((signals.lookup process).map (.killed · false))) }

/-- Whether a task gives its number to a new one. -/
def isSpent (task : Task) : Bool :=
  task.noticed && task.waited

/-- The least number from a given one on that is not among numbers in order. -/
def leastFree : Nat → List Nat → Nat
  | number, [] => number
  | number, used :: others =>
    if number < used then number else leastFree (max number (used + 1)) others

/-- The least number, from one on, that no task keeps from being used. -/
def freeNumber (tasks : List Task) : Nat :=
  let used := (tasks.filter fun task => !task.isSpent).map (·.number)
  leastFree 1 (used.mergeSort fun a b => decide (a ≤ b))

/-- The tasks without the one whose number is used next. -/
def makingRoom (tasks : List Task) : List Task :=
  let number := freeNumber tasks
  tasks.filter fun task => task.number ≠ number

end Task

end Shell

end KernelCensus
