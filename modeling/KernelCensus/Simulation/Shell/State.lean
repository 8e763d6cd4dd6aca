/-
# The state of a shell

A shell keeps variables, functions, options, open descriptors and what it was told to do at its
end.  What it runs acts on this state and on the world, and may stop early: it may leave a loop or
a function, end the shell, or fail.
-/
import KernelCensus.Host.Program
import KernelCensus.Simulation.Shell.Condition
import KernelCensus.Simulation.Shell.Script
import KernelCensus.Simulation.Shell.Task
import KernelCensus.Simulation.Utility.Basic

namespace KernelCensus

namespace Shell

/-! ## States -/

/-- A variable: its value if it has one, whether programs see it, and whether it is fixed. -/
structure Variable where
  value : Option Octets := none
  exported : Bool := false
  fixed : Bool := false

/-- Why running stops early.  An exit without a code keeps the last one; a return without one has
the last one, too, but `chosen` says whether it came with it.  `interrupted` is what a signal does
to a shell that asks for what it runs, and `left` is the end of a process that does nothing more.
-/
inductive Stop
  | broke (levels : Nat)
  | continued (levels : Nat)
  | returned (code : Nat) (chosen : Bool)
  | exited (code : Option Nat)
  | failed
  | interrupted
  | left (status : ExitStatus)
  deriving DecidableEq, Repr

/-- What variables and options were before a function made them its own. -/
structure Frame where
  bindings : List (Octets × Option Variable) := []
  options : Option (List String) := none

/-- A command that was found in the search path: its name, the number of the place where it was
found, and whether the working directory was changed since then. -/
structure Known where
  name : Octets
  place : Nat
  stale : Bool := false

/-- What a shell knows. -/
structure State where
  /-- How the shell was started. -/
  origin : Invocation
  name : Octets
  /-- The number of the process, which a copy of the shell keeps that has a number of its own, and
  that of the process that started this one. -/
  process : Nat
  number : Nat
  parent : Nat
  isCopy : Bool := false
  positional : List Octets := []
  bindings : List (Octets × Variable) := []
  /-- What to put back when commands and functions end, the innermost first. -/
  frames : List Frame := []
  functions : List (Octets × Command) := []
  aliases : List (Octets × Octets) := []
  /-- The options that are on, and those about which nothing was said while a shell starts, which
  are listed as if they were on. -/
  options : List String := []
  unsaid : List String := []
  /-- The exit code of the last command, and of the last substitution. -/
  status : Nat := 0
  substituted : Nat := 0
  /-- The exit code before what is arranged for a signal, or for the end, while that runs. -/
  kept : Option Nat := none
  here : List EntryName
  /-- The path of the working directory as it was reached. -/
  place : Octets
  descriptors : List (Nat × Nat)
  /-- Descriptors that are for the shell alone: what others refer to when redirections end, and the
  scripts that are run. -/
  saved : List (Nat × Nat) := []
  scripts : List (Nat × Nat) := []
  /-- What the descriptors that a command redirects will refer to once it ends, and the descriptors
  that are taken as closed: the ones that a redirection closed. -/
  outer : List (Nat × Option Nat) := []
  shut : List Nat := []
  limits : Limits
  /-- What to run at the end, under number zero, and when signals come; and the signals that are
  ignored whatever is arranged for them. -/
  traps : List (Nat × Octets) := []
  ignored : List Nat := []
  /-- The builtin that complains, and what it will have printed when it is done. -/
  speaker : Option Octets := none
  held : Octets := []
  line : Nat := 0
  /-- The line up to which the script that runs is read, and up to which that one is read which the
  shell reads for itself. -/
  reached : Nat := 1
  ownReached : Nat := 1
  /-- The texts that redirections announced in what was read. -/
  texts : List (Nat × Word) := []
  nextText : Nat := 0
  /-- How many loops are around, and how many functions. -/
  loops : Nat := 0
  functionDepth : Nat := 0
  /-- The commands that were found in the search path. -/
  known : List Known := []
  /-- The process that was last started in the background, and the tasks, the last one first. -/
  lastProcess : Option Nat := none
  tasks : List Task := []
  inBackground : Bool := false
  /-- Whether processes ended for which an action is arranged. -/
  lostProcess : Bool := false
  /-- The number of the parameter that is next looked at for options, and how far the one before it
  was looked at, if it was. -/
  optionNumber : Nat := 1
  optionPlace : Option Nat := none
  /-- Whether the end of a text was read ahead. -/
  endAhead : Bool := false
  /-- Whether a return has left the script that was given while there is one to read; where it has,
  whether an exit code was chosen then.  The one that is read is left after its first command. -/
  leaving : Option Bool := none
  /-- Whether commands are not traced because a trace is being written. -/
  tracing : Bool := false
  /-- The mask of new files. -/
  mask : Nat
  /-- Which boxes for mail were there, and whether others were named since then. -/
  mail : List Bool := []
  mailMoved : Bool := false

/-- Named things in the order in which tables with so many rows list them: the characters of a
name say what its row is. -/
def inRows {α : Type} (count : Nat) (name : α → Octets) (things : List α) : List α :=
  let row (thing : α) : Nat :=
    let first := ((name thing).head?.map Char.toNat).getD 0
    (name thing).foldl (fun n c => n + c.toNat) (16 * first) % count
  things.mergeSort fun a b => decide (row a ≤ row b)

/-- What acts on the state of a shell and on the world. -/
abbrev Run := ExceptT Stop (StateT State Job)

/-- Looks at the world, or changes it, even where the program that runs does not go on. -/
def onHalted {α : Type} (change : World → α × World) : Run α :=
  liftM (modifyGet change : Job α)

/-- Leaves off where the program that runs does not go on. -/
def heed : Option Halt → Run Unit
  | none => pure ()
  | some (.killed signal) => do
    onHalted fun world => ((), { world with halt := none })
    throw (.left (.killed signal false))
  | some _ => throw (.left (.exited 0))

/-- Acts on the world. -/
def onWorld {α : Type} (job : Job α) : Run α := do
  let (result, halt) ← liftM (do return (← job, (← get).halt) : Job (α × Option Halt))
  heed halt
  pure result

/-- Does nothing more, as what runs goes on for ever. -/
def goOnForever {α : Type} : Run α := do
  onWorld (modify fun world => { world with halt := some .endless })
  throw (.left (.exited 0))

/-- Runs something and says how it stopped, if it did. -/
def attempt {α : Type} (action : Run α) : Run (Except Stop α) :=
  ExceptT.mk do
    let result ← action.run
    pure (.ok result)

/-- Stops, or goes on with a result. -/
def resume {α : Type} : Except Stop α → Run α
  | .ok result => pure result
  | .error stop => throw stop

/-- Runs something, and something else after it however it stopped. -/
def ensuring {α : Type} (action : Run α) (after : Run Unit) : Run α := do
  let result ← attempt action
  after
  resume result

/-! ## Writing -/

/-- The signals that programs ignore which the shell starts: those that it ignores itself. -/
def State.allIgnored (state : State) : List Nat :=
  state.ignored ++ (state.traps.filter fun (_, action) => action.isEmpty).map Prod.fst

/-- The shell as it sees itself. -/
def State.self (state : State) : Invocation :=
  { state.origin with
    here := state.here
    descriptors := state.descriptors ++ state.saved ++ state.scripts
    ignored := state.allIgnored
    limits := state.limits
    mask := state.mask
    number := some state.number }

/-- The number of rows in which variables are listed. -/
def variableRows : Nat := 39

/-- A program as the shell would start it, under a name and with arguments; it may take the place of
the shell. -/
def State.invocation (state : State) (replaces : Bool) (path name : Octets)
    (arguments : List Octets) : Invocation where
  path := World.absolute state.here path
  name := name
  arguments := arguments
  ignored := state.allIgnored
  limits := state.limits
  mask := state.mask
  parent := if replaces then state.parent else state.number
  number := if replaces then some state.number else none
  environment :=
    (inRows variableRows Prod.fst state.bindings).filterMap fun (name, known) =>
      match known.value with
      | some value => if known.exported then some (name, value) else none
      | none => none
  here := state.here
  descriptors := state.descriptors

/-- Writes to a descriptor, and says whether that was possible.  A shell that has arranged for the
signal that comes where it was not goes on. -/
def put (descriptor : Nat) (bytes : Octets) : Run Bool := do
  let state ← get
  onWorld do
    let written ← state.self.put descriptor bytes
    modify fun world =>
      match world.halt with
      | some (.killed signal) =>
        if (state.traps.lookup signal).isNone then world
        else
          { world with halt := none, sent := world.sent ++ [(state.number, signal)] }
      | _ => world
    pure written

/-- Writes a line of complaint as it stands. -/
def mutter (text : Octets) : Run Unit := do
  let _ ← put 2 (text ++ ['\n'])

/-- Complains, after the name of the shell, the line, and the builtin if there is one. -/
def complain (text : Octets) : Run Unit := do
  let state ← get
  let speaker :=
    match state.speaker with
    | some name => name ++ ": ".toList
    | none => []
  mutter (state.name ++ ": ".toList ++ Octets.ofNat state.line ++ ": ".toList ++ speaker ++ text)

/-- Complains and fails. -/
def fail {α : Type} (text : Octets) : Run α := do
  complain text
  throw .failed

/-- Sets the line that complaints name. -/
def setLine (line : Nat) : Run Unit :=
  modify fun state => { state with line }

/-- Complains that what was read is no script, and fails. -/
def refuse {α : Type} (fault : Octets) : Run α := do
  setLine (← get).reached
  fail ("Syntax error: ".toList ++ fault)

/-- Sets the exit code. -/
def setStatus (code : Nat) : Run Unit :=
  modify fun state => { state with status := code }

/-- Leaves a script after its first command if the one before it was left. -/
def heedReturn : Run Unit := do
  let state ← get
  match state.leaving with
  | none => pure ()
  | some chosen => throw (.returned state.status chosen)

/-- Ends a return where what it leaves ends, which gives an exit code. -/
def endReturn (code : Nat) : Run Nat := do
  modify fun state => { state with leaving := none }
  pure code

/-! ## Options -/

/-- The options, each with its letter if it has one. -/
def optionLetters : List (String × Option Char) :=
  [("errexit", some 'e'), ("noglob", some 'f'), ("ignoreeof", some 'I'),
    ("interactive", some 'i'), ("monitor", some 'm'), ("noexec", some 'n'), ("stdin", some 's'),
    ("xtrace", some 'x'), ("verbose", some 'v'), ("vi", some 'V'), ("emacs", some 'E'),
    ("noclobber", some 'C'), ("allexport", some 'a'), ("notify", some 'b'),
    ("nounset", some 'u'), ("privileged", some 'p'), ("nolog", none), ("debug", none)]

/-- Whether an option is on. -/
def State.isOn (state : State) (option : String) : Bool :=
  state.options.contains option

/-- The state with an option on or off. -/
def State.turn (state : State) (option : String) (on : Bool) : State :=
  let others := state.options.filter (· ≠ option)
  { state with
    options := if on then option :: others else others
    unsaid := state.unsaid.filter (· ≠ option) }

/-- Whether a shell asks for what it runs: it is interactive, and no copy. -/
def State.asks (state : State) : Bool :=
  state.isOn "interactive" && !state.isCopy

/-! ## Variables -/

/-- A variable, whether it is set or not. -/
def State.variable (state : State) (name : Octets) : Variable :=
  (state.bindings.lookup name).getD {}

/-- The value of a variable. -/
def State.value? (state : State) (name : Octets) : Option Octets :=
  (state.variable name).value

/-- The state with a variable changed. -/
def State.putVariable (state : State) (name : Octets) (new : Variable) : State :=
  { state with bindings := Table.put name new state.bindings }

/-- The number that an argument spells, from zero up to the greatest of 31 bits. -/
def wholeNumber (argument : Octets) : Run Nat := do
  match Condition.number argument with
  | .error fault => fail fault
  | .ok n =>
    if 0 ≤ n && n < 2147483648 then pure n.toNat
    else fail ("Illegal number: ".toList ++ argument)

/-- The variable that says which parameter is next looked at for options. -/
def optionVariable : Octets :=
  "OPTIND".toList

/-- The variables that name boxes for mail. -/
def mailVariables : List Octets :=
  ["MAIL".toList, "MAILPATH".toList]

/-- The variable that says where commands are looked for. -/
def pathVariable : Octets :=
  "PATH".toList

/-- The state after a variable was given a value, or lost it. -/
def State.noteChange (state : State) (name : Octets) : State :=
  { state with
    mailMoved := state.mailMoved || mailVariables.contains name
    known := if name = pathVariable then [] else state.known }

/-- Refuses to change a fixed variable. -/
def requireLoose (name : Octets) : Run Unit := do
  if ((← get).variable name).fixed then fail (name ++ ": is read only".toList)

/-- Gives a variable a value, which has no other effect. -/
def assignOnly (name value : Octets) : Run Unit := do
  requireLoose name
  let state ← get
  let old := state.variable name
  let exported := old.exported || state.isOn "allexport"
  set ((state.putVariable name { old with value := some value, exported }).noteChange name)

/-- The state where a parameter is next looked at for options from its front. -/
def State.lookFrom (state : State) (number : Nat) : State :=
  { state with optionNumber := if number = 0 then 1 else number, optionPlace := none }

/-- Gives a variable a value. -/
def assign (name value : Octets) : Run Unit := do
  requireLoose name
  if name = optionVariable then
    let number ← wholeNumber value
    modify (·.lookFrom number)
  assignOnly name value

/-- Remembers what a variable is, to be put back later. -/
def makeLocal (name : Octets) : Run Unit :=
  modify fun state =>
    match state.frames with
    | [] => state
    | frame :: frames =>
      if (frame.bindings.lookup name).isSome then state
      else
        let old := (name, state.bindings.lookup name)
        { state with frames := { frame with bindings := old :: frame.bindings } :: frames }

/-- Remembers which options are on, to be put back later. -/
def makeOptionsLocal : Run Unit :=
  modify fun state =>
    match state.frames with
    | [] => state
    | frame :: frames =>
      { state with frames := { frame with options := frame.options.or state.options } :: frames }

/-- Makes variables what they were before, one after the other; one that was none must have a name
to be unset. -/
def putBack : List (Octets × Option Variable) → Run Unit
  | [] => pure ()
  | (name, some old) :: others => do
    modify fun state => (state.putVariable name old).noteChange name
    if name = optionVariable then
      let number := old.value.bind fun value => (Condition.number value).toOption
      if old.value.isSome then modify (·.lookFrom (number.getD 1).toNat)
    putBack others
  | (name, none) :: others => do
    if !isName name then fail (name ++ ": bad variable name".toList)
    modify fun state =>
      { state with bindings := Table.erase name state.bindings }.noteChange name
    putBack others

/-- Ends the local variables and options of the innermost of some commands. -/
def dropFrame : Run Unit := do
  match (← get).frames with
  | [] => pure ()
  | frame :: frames =>
    modify fun state =>
      { state with options := frame.options.getD state.options, frames }
    putBack frame.bindings

/-- Ends the local variables and options of so many commands. -/
def dropFrames : Nat → Run Unit
  | 0 => pure ()
  | count + 1 => do
    dropFrame
    dropFrames count

/-- Runs something whose local variables and options end with it.  Where it ends the shell they
last, so that what is run at the end sees them. -/
def withLocals {α : Type} (action : Run α) : Run α := do
  let depth := (← get).frames.length
  modify fun state => { state with frames := {} :: state.frames }
  let result ← attempt action
  let stays :=
    match result with
    | .error (.exited _) => true
    | .error .failed => true
    | .error .interrupted => true
    | .error (.left _) => true
    | _ => false
  if !stays then dropFrames ((← get).frames.length - depth)
  resume result

/-- The characters that separate fields. -/
def State.separators (state : State) : Octets :=
  (state.value? "IFS".toList).getD [' ', '\t', '\n']

/-! ## Descriptors -/

/-- The descriptors with one that refers to a stream. -/
def State.bind (state : State) (descriptor stream : Nat) : State :=
  { state with descriptors := Table.put descriptor stream state.descriptors }

/-- The descriptors without one. -/
def State.close (state : State) (descriptor : Nat) : State :=
  { state with descriptors := Table.erase descriptor state.descriptors }

/-- A new stream. -/
def addStream (stream : Stream) : Run Nat :=
  onWorld (modifyGet fun world => (world.add stream).swap)

/-- The state where a descriptor is taken as closed, or not. -/
def State.take (state : State) (descriptor : Nat) (closed : Bool) : State :=
  let others := state.shut.filter (· ≠ descriptor)
  { state with shut := if closed then descriptor :: others else others }

/-- The state with descriptors as they were before they were redirected. -/
def State.putBack (state : State) : List (Nat × Option Nat) → State
  | [] => state
  | (descriptor, some stream) :: others =>
    ((state.bind descriptor stream).take descriptor false).putBack others
  | (descriptor, none) :: others =>
    let after := if state.shut.contains descriptor then state else state.close descriptor
    (after.take descriptor true).putBack others

/-- How the shell looks along paths. -/
def view : Run World.Look := do
  let state ← get
  return (← onWorld get).look state.self

/-- Fails unless a pipe can be made while so many more descriptors are open. -/
def requirePipe (others : Nat) : Run Unit := do
  let state ← get
  match state.limits.bound? .files with
  | none => pure ()
  | some bound =>
    let used := state.self.descriptors.filter fun (descriptor, _) => decide (descriptor < bound)
    if bound < used.length + others + 2 then fail "Pipe call failed".toList

/-- The least number of a descriptor that is for the shell alone. -/
def leastOwn : Nat := 10

/-- The number of the next descriptor that is for the shell alone: the least that is free, which
comes after all the others unless one between them is free. -/
def State.nextOwn (state : State) : Nat :=
  let own := (state.saved ++ state.scripts).map Prod.fst
  let next := own.foldl (fun next number => max next (number + 1)) leastOwn
  if next = leastOwn + own.length then next
  else (((List.range own.length).map (leastOwn + ·)).find? (!own.contains ·)).getD next

/-- What is in the way of one more descriptor for the shell alone. -/
def State.ownObstacle? (state : State) : Option String :=
  match state.limits.bound? .files with
  | none => none
  | some bound =>
    if state.nextOwn < bound then none
    else some (if bound ≤ leastOwn then "Invalid argument" else "Too many open files")

/-- Keeps what a descriptor refers to that is to be redirected, if it is open and not taken as
closed, and says what is in the way.  Where that is not possible, the descriptor is closed for
good. -/
def save (descriptor : Nat) (closed : Bool) : Run (Option String) := do
  let state ← get
  let old := if closed then none else state.descriptors.lookup descriptor
  match old, state.ownObstacle? with
  | none, _ =>
    set { state with outer := (descriptor, none) :: state.outer }
    pure none
  | some stream, none =>
    set { state with
          saved := (state.nextOwn, stream) :: state.saved
          outer := (descriptor, some stream) :: state.outer }
    pure none
  | some _, obstacle? =>
    set (state.close descriptor)
    pure obstacle?

/-- Runs something, after which the descriptors that it redirects are as they were, unless they
are to stay as they are then; they do not stay so where it stops. -/
def withDescriptors {α : Type} (stay : Bool) (action : Run α) : Run α := do
  let { saved, outer, .. } ← get
  modify fun state => { state with outer := [] }
  let result ← attempt action
  let redirected := (← get).outer
  modify fun state => { state with saved, outer }
  if !stay || result.toOption.isNone then modify (·.putBack redirected)
  resume result

/-- Keeps a stream open for a script. -/
def keepScript (stream : Nat) : Run Unit := do
  let state ← get
  match state.ownObstacle? with
  | none => set { state with scripts := (state.nextOwn, stream) :: state.scripts }
  | some obstacle =>
    fail (Octets.ofNat state.self.freeDescriptor ++ ": ".toList ++ obstacle.toList)

/-- Runs something while the shell keeps a stream open for a script. -/
def withScript {α : Type} (stream : Nat) (action : Run α) : Run α := do
  let scripts := (← get).scripts
  ensuring (do keepScript stream; action) (modify fun state => { state with scripts })

end Shell

end KernelCensus
