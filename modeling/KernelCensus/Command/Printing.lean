/-
# Commands that print

A command prints its answer line by line.  The output takes all that is printed, and what has been
printed stays there, whatever fails afterwards.
-/
import KernelCensus.Command.Basic

namespace KernelCensus

/-! ## Computations that print -/

/-- A traced computation and the text that it has printed. -/
structure Printing (α : Type) extends Traced Failure α where
  printed : String

namespace Printing

/-- A computation that prints nothing. -/
def silent {α : Type} (computation : Traced Failure α) : Printing α :=
  ⟨computation, ""⟩

/-- Goes on with the value of a success, printing behind what was printed. -/
def andThen {α β : Type} (first : Printing α) (next : α → Printing β) : Printing β :=
  match first.outcome with
  | .error failure => { first with outcome := .error failure }
  | .ok a =>
    let later := next a
    { outcome := later.outcome
      log := first.log ++ later.log
      calls := first.calls ++ later.calls
      printed := first.printed ++ later.printed }

instance : Monad Printing where
  pure a := silent (pure a)
  bind := andThen

/-- Prints a text. -/
def print (text : String) : Printing Unit :=
  ⟨pure (), text⟩

/-- Prints a text for each element of a list, one after the other. -/
def printEach {α : Type} (text : α → String) : List α → Printing Unit
  | [] => pure ()
  | a :: as => do
    print (text a)
    printEach text as

/-- What is left to one who waits for the end and keeps the output of a success only. -/
def collected (computation : Printing Unit) : Traced Failure String :=
  ⟨computation.outcome.map fun _ => computation.printed, computation.log, computation.calls⟩

end Printing

/-! ## Commands -/

namespace Command

/-- What a command was doing when it failed, in words; about the host nothing is said. -/
def contexts : Command → List String
  | list root => [s!"listing kernels in '{root.text}'"]
  | versions root => [s!"reading kernel versions in '{root.text}'"]
  | oldest root => [s!"finding oldest kernel in '{root.text}'"]
  | check root => [s!"checking for installed kernel in '{root.text}'"]
  | host => []

/-- Asks on behalf of a command, whose contexts stand around an error. -/
def asking {α : Type} (command : Command) (asked : Traced QueryError α) : Printing α :=
  .silent (asked.mapError fun error => ⟨command.contexts, .query error⟩)

/-- Runs a command, which prints line by line. -/
def print (settings : Settings) (surroundings : Surroundings) (command : Command) :
    Printing Unit :=
  match command with
  | list root => do
    let names ← command.asking (settings.moduleTree.names surroundings.directories root)
    Printing.printEach line names
  | versions root => do
    let kernels ← command.asking (settings.moduleTree.kernels surroundings.directories root)
    Printing.printEach kernelLine kernels
  | oldest root => do
    let kernel ← command.asking (settings.moduleTree.oldest surroundings.directories root)
    Printing.print (kernelLine kernel)
  | check root => do
    command.asking (settings.moduleTree.checkPresent surroundings.directories root)
    Printing.print (line s!"  [OK] kernel installed in {root.text}")
  | host => do
    let version ← command.asking (hostVersion (surroundings.outside settings).release)
    Printing.print (line version.text)

/-- Runs the command that words spell, which prints; words that spell none fail with the usage. -/
def printWords (settings : Settings) (surroundings : Surroundings) (words : List String) :
    Printing Unit :=
  match ofWords? words with
  | some command => command.print settings surroundings
  | none => .silent (Traced.ofExcept (.error (.of .noCommand)))

/-- What the command that words spell leaves to one who waits for its end. -/
def dispatch (settings : Settings) (surroundings : Surroundings) (words : List String) :
    Traced Failure String :=
  (printWords settings surroundings words).collected

end Command

end KernelCensus
