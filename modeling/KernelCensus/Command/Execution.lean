/-
# Executions of the program

An execution reads its arguments, then its settings, and then runs its command.  The standard
output is what the command has printed.  The standard error gets the logged events that are shown,
one to a line, and at the end of a failure its whole chain.
-/
import KernelCensus.Command.Arguments
import KernelCensus.Command.Printing

namespace KernelCensus

/-- What an execution leaves behind. -/
structure Execution where
  code : Nat
  stdout : String
  stderr : String
  deriving DecidableEq, Repr

namespace Execution

/-! ## Diagnostics -/

/-- The least level of the events shown. -/
def threshold (verbose : Bool) : Level :=
  if verbose then .debug else .warn

/-- The line of an event. -/
def eventLine (event : Event) : String :=
  s!"[{event.level.text}] {event.text}\n"

/-- The lines of the events shown. -/
def shownEvents (verbose : Bool) (log : List Event) : String :=
  String.join ((log.filter fun event =>
    (threshold verbose).rank ≤ event.level.rank).map eventLine)

/-- The line of a failure: all its texts, outermost first. -/
def failureLine (failure : Failure) : String :=
  "Error: " ++ String.intercalate ": " failure.chain ++ "\n"

/-- What a computation that prints leaves behind. -/
def ofPrinting (verbose : Bool) (computation : Printing Unit) : Execution :=
  let shown := shownEvents verbose computation.log
  match computation.outcome with
  | .ok () => ⟨0, computation.printed, shown⟩
  | .error failure => ⟨1, computation.printed, shown ++ failureLine failure⟩

/-! ## Running -/

/-- The settings that arguments name, or the default. -/
def settings (surroundings : Surroundings) (arguments : Arguments) : Except Failure Settings :=
  match arguments.settingsFile with
  | some file => Settings.load surroundings.reader surroundings.read file
  | none => .ok {}

/-- Does what the arguments of the program say. -/
def attempt (surroundings : Surroundings) (words : List String) : Printing Unit := do
  let arguments ← Printing.silent (Traced.ofExcept (Arguments.parse words))
  let settings ← Printing.silent (Traced.ofExcept (settings surroundings arguments))
  Command.printWords settings surroundings arguments.command

/-- Whether arguments ask for all events; arguments that cannot be read do not. -/
def isVerbose (words : List String) : Bool :=
  match Arguments.parse words with
  | .ok arguments => arguments.verbose
  | .error _ => false

/-- The release command that executing the program with arguments starts. -/
def releaseCommand? (surroundings : Surroundings) (words : List String) :
    Option (List String) :=
  match Arguments.parse words with
  | .error _ => none
  | .ok arguments =>
    match settings surroundings arguments with
    | .error _ => none
    | .ok settings => Command.releaseCommand? settings arguments.command

/-- Executes the program with arguments. -/
def run (surroundings : Surroundings) (words : List String) : Execution :=
  .ofPrinting (isVerbose words) (attempt surroundings words)

end Execution

end KernelCensus
