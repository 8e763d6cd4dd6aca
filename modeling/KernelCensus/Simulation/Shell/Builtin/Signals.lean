/-
# Builtins for signals

`trap` says what is run at the end of the shell or when a signal comes, and `kill` sends signals.
-/
import KernelCensus.Simulation.Shell.Builtin.Tasks

namespace KernelCensus

namespace Shell

/-! ## Traps -/

/-- Lists what was arranged for signals. -/
def showTraps : Run Nat := do
  let traps := (← get).traps
  let lines := (List.range signalCount).filterMap fun number =>
    (traps.lookup number).map fun action =>
      "trap -- ".toList ++ quoteWord action ++ [' '] ++ signalName number
  answer (linesOf lines)

/-- Arranges an action for signals, or nothing; gives the exit code. -/
def arrange (action : Option Octets) : List Octets → Run Nat
  | [] => pure 0
  | name :: names => do
    match signal? 0 name with
    | none =>
      mutter ("trap: ".toList ++ name ++ ": bad trap".toList)
      pure 1
    | some number =>
      modify fun state =>
        { state with
          traps :=
            match action with
            | some action => Table.put number action state.traps
            | none => Table.erase number state.traps }
      arrange action names

/-- Arranges for signals. -/
def trap (arguments : List Octets) : Run Nat := do
  let (_, operands) ← takeOptions "" "" arguments
  match operands with
  | [] => showTraps
  | [name] => arrange none [name]
  | action :: names =>
    if (signalNumber? action).isSome then arrange none (action :: names)
    else arrange (if action = ['-'] then none else some action) names

/-! ## Sending -/

/-- The process that a text names: by its number, or by that of a group, of which there are none but
the own one, or as a task. -/
def goalOf (text : Octets) : Run (Option Nat) := do
  let own := (← get).process
  match text with
  | '%' :: _ =>
    let _ ← findTask (some text)
    pure none
  | '-' :: digits =>
    let number ← wholeNumber digits
    pure (if number = 0 then some own else none)
  | digits =>
    let number ← wholeNumber digits
    pure (some (if number = 0 then own else number))

/-- What a signal does for which nothing is arranged: most of them end the shell.  One that asks
goes on after some of them, and is only interrupted by another. -/
def receive (signal : Nat) : Run Unit := do
  if (← get).asks then
    if signal = 2 then
      let _ ← put 2 ['\n']
      throw .interrupted
    else if signal ≠ 3 && signal ≠ 15 then throw (.left (.killed signal false))
  else throw (.left (.killed signal false))

/-- Whether something is arranged for a signal, as nothing can be for one of them. -/
def State.isReadyFor (state : State) (signal : Nat) : Bool :=
  signal ≠ 9 && ((state.traps.lookup signal).isSome || state.ignored.contains signal)

/-- Sends a signal to a process, which receives it at once if it is the shell itself, and nothing is
arranged.  Number zero does nothing. -/
def sendTo (signal process : Nat) : Run Unit := do
  let state ← get
  if process = state.number && isDeadly signal && !state.isReadyFor signal then receive signal
  else if signal ≠ 0 then
    onWorld (modify fun world => { world with sent := world.sent ++ [(process, signal)] })

/-- Sends a signal to processes, one after the other; gives the exit code. -/
def send (signal : Nat) : List Octets → Run Nat
  | [] => pure 0
  | goal :: goals => do
    let process? ← goalOf goal
    match process?.filter (← onWorld get).isAlive with
    | some process =>
      sendTo signal process
      send signal goals
    | none =>
      complain "No such process\n".toList
      let _ ← send signal goals
      pure 1

/-- Lists the names of signals, or gives the name of one that an exit code stands for. -/
def showSignals (operands : List Octets) : Run Nat := do
  match operands with
  | [] => answer (linesOf (['0'] :: (List.range signalCount).tail.map signalName))
  | operand :: _ =>
    let code ← wholeNumber operand
    let number := if 128 < code then code - 128 else code
    if 0 < number && number < signalCount then answer (signalName number ++ ['\n'])
    else fail ("invalid signal number or exit status: ".toList ++ operand)

/-- Sends signals. -/
def kill (arguments : List Octets) : Run Nat := do
  let usage : Run Nat :=
    fail ("Usage: kill [-s sigspec | -signum | -sigspec] [pid | job]... or\n".toList ++
      "kill -l [exitstatus]".toList)
  let sendAll (signal : Nat) (goals : List Octets) : Run Nat :=
    if goals.isEmpty then usage else send signal goals
  let named (text : Octets) : Run Nat :=
    match signal? 1 text with
    | some signal => pure signal
    | none => fail ("invalid signal number or name: ".toList ++ text)
  match arguments with
  | [] => usage
  | ('-' :: text) :: rest =>
    match signal? 1 text with
    | some signal => sendAll signal rest
    | none =>
      let (options, operands) ← takeOptions "l" "s" arguments
      let signals ← (options.filter fun (c, _) => c = 's').mapM fun (_, text) => named text
      if options.any fun (c, _) => c = 'l' then
        if signals.isEmpty || operands.isEmpty then showSignals operands else usage
      else sendAll (signals.getLast?.getD 15) operands
  | goals => sendAll 15 goals

end Shell

end KernelCensus
