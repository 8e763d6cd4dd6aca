/-
# Builtins for tasks

`jobs` lists the tasks of a shell, and `wait` waits for tasks, which have ended by then if they ever
end.  `fg` and `bg` need control of a terminal, and there is none.
-/
import KernelCensus.Simulation.Shell.Builtin.Basic
import KernelCensus.Simulation.Shell.Signal

namespace KernelCensus

namespace Shell

/-! ## Ends -/

/-- The exit code of a process that ended. -/
def codeOf : ExitStatus → Nat
  | .exited code => code
  | .killed number _ => 128 + number

/-- Says which signal ended a process, but for two that are common. -/
def tellEnd : ExitStatus → Run Unit
  | .exited _ => pure ()
  | .killed number _ =>
    if ([2, ExitStatus.brokenPipe] : List Nat).contains number then pure ()
    else mutter (signalText number)

/-- The exit code of a process that ended; what ended it is said. -/
def exitCode (status : ExitStatus) : Run Nat := do
  tellEnd status
  pure (codeOf status)

/-- Whether a signal ends a process in the background that has not arranged for it: such a process
ignores those that come from a keyboard. -/
def endsTask (signal : Nat) : Bool :=
  isDeadly signal && signal ≠ 2 && signal ≠ 3

/-- Remembers that a process ended, if something is arranged for that. -/
def loseProcess : Run Unit :=
  modify fun state =>
    if (state.traps.lookup 17).any fun action => !action.isEmpty then
      { state with lostProcess := true }
    else state

/-- Notices which tasks have ended. -/
def noticeEnds : Run Unit := do
  if !(← get).tasks.isEmpty then
    let signals := (← onWorld get).sent.filter fun (_, signal) => endsTask signal
    let tasks := (← get).tasks.map (Task.after signals)
    let ended := tasks.filter fun task => task.hasEnded && !task.noticed
    if !ended.isEmpty then loseProcess
    onWorld (modify (·.bury (ended.flatMap fun task => task.processes.map Prod.fst)))
    modify fun state =>
      { state with
        tasks := tasks.map fun task => { task with noticed := task.noticed || task.hasEnded } }

/-- Notices that a process ended for which the shell waited. -/
def noticeOwn : Run Unit := do
  modify fun state => { state with tasks := Task.makingRoom state.tasks }
  loseProcess
  noticeEnds

/-! ## Naming tasks -/

/-- The task that a name stands for; the last one is meant where there is no name.  Names are
numbers after a percent sign, and signs for the last task and the one before it; no task has a
text that could be looked at. -/
def findTask (name : Option Octets) : Run Task := do
  let tasks := (← get).tasks
  let choose (task? : Option Task) (fault : String) : Run Task :=
    match task? with
    | some task => pure task
    | none => fail fault.toList
  let shown := String.ofList (name.getD [])
  let unknown := "No such job: " ++ shown
  let current := choose tasks.head? "No current job"
  match name with
  | none => current
  | some ['%'] => current
  | some ['%', '+'] => current
  | some ['%', '%'] => current
  | some ['%', '-'] => choose tasks[1]? "No previous job"
  | some ['%', '?'] =>
    choose tasks.head? unknown >>= fun task =>
      if tasks.length = 1 then pure task else choose none (shown ++ ": ambiguous")
  | some ('%' :: text) =>
    let number := Numeral.valueOf 10 text
    choose (tasks.find? fun task => text.all Char.isDigit && task.number = number) unknown
  | some _ => choose none unknown

/-! ## Listing -/

/-- How a task is going, in words. -/
def Task.words (task : Task) : Octets :=
  if !task.noticed then "Running".toList
  else
    match task.ending with
    | .exited 0 => "Done".toList
    | .exited code => "Done(".toList ++ Octets.ofNat code ++ [')']
    | .killed number _ => signalText number

/-- A text with blanks up to a width, of which there is at least one. -/
def widened (text : Octets) : Octets :=
  text ++ List.replicate (max 1 (33 - text.length)) ' '

/-- The line of a task; a sign marks the last one and the one before it. -/
def Task.line (task : Task) (sign : Char) : Octets :=
  let front := ['['] ++ Octets.ofNat task.number ++ "] ".toList ++ [sign, ' ']
  widened (front ++ task.words) ++ (task.processes.tail.flatMap fun _ => " | ".toList) ++ ['\n']

/-- The lines of a task with the numbers of its processes. -/
def Task.lines (task : Task) (sign : Char) : Octets :=
  let front := ['['] ++ Octets.ofNat task.number ++ "] ".toList ++ [sign, ' ']
  let numbers := task.processes.map fun (process, _) => Octets.ofNat process ++ [' ']
  let others := numbers.tail.map fun number =>
    let line := List.replicate front.length ' ' ++ number
    " |\n".toList ++ line ++ List.replicate (max 1 (33 - line.length)) ' '
  widened (front ++ numbers.headD [] ++ task.words) ++ others.flatten ++ ['\n']

/-- How tasks are listed. -/
inductive Listing
  | states
  | processes
  | numbers
  deriving DecidableEq, Repr

/-- The lines for tasks, each of which is forgotten then if it has ended. -/
def listTasks (listing : Listing) : List Task → Run Octets
  | [] => pure []
  | task :: others => do
    let tasks := (← get).tasks
    let isAt (place : Nat) : Bool := (tasks[place]?).any fun other => other.number = task.number
    let sign := if isAt 0 then '+' else if isAt 1 then '-' else ' '
    let text :=
      match listing with
      | .states => task.line sign
      | .processes => task.lines sign
      | .numbers => Octets.ofNat ((task.processes.head?.map Prod.fst).getD 0) ++ ['\n']
    if listing ≠ .numbers && task.noticed then
      modify fun state =>
        { state with tasks := state.tasks.filter fun other => other.number ≠ task.number }
    return text ++ (← listTasks listing others)

/-- Lists the named tasks in turn, up to a name that stands for none. -/
def listNamed (listing : Listing) : List Octets → Run Unit
  | [] => pure ()
  | name :: names => do
    let task ← findTask (some name)
    let _ ← answer (← listTasks listing [task])
    let _ ← release
    listNamed listing names

/-- Lists tasks. -/
def jobs (arguments : List Octets) : Run Nat := do
  let (options, names) ← takeOptions "lp" "" arguments
  let listing : Listing :=
    match options.getLast? with
    | none => .states
    | some (c, _) => if c = 'l' then .processes else .numbers
  if names.isEmpty then answer (← listTasks listing (← get).tasks)
  else
    listNamed listing names
    pure 0

/-- Refuses to go on with a task. -/
def resumeTask (arguments : List Octets) : Run Nat := do
  let (_, names) ← takeOptions "" "" arguments
  let _ ← findTask names.head?
  fail ("job ".toList ++ names.headD "(null)".toList ++
    " not created under job control".toList)

/-! ## Waiting -/

/-- The exit code of waiting that is cut short by a signal for which something is arranged. -/
def interruption? : Run (Option Nat) := do
  let state ← get
  let sent := (← onWorld get).sent
  let isArranged (signal : Nat) : Bool :=
    !state.ignored.contains signal && (state.traps.lookup signal).any fun action => !action.isEmpty
  let cuts := fun (number, signal) => number = state.number && isArranged signal
  pure ((sent.reverse.find? cuts).map fun (_, signal) => 128 + signal)

/-- Remembers that the shell has waited for some tasks. -/
def haveWaited (isMeant : Task → Bool) : Run Unit :=
  modify fun state =>
    { state with
      tasks := state.tasks.map fun task =>
        if isMeant task then { task with waited := true } else task }

/-- Waits for all tasks; gives the exit code. -/
def waitForAll : Run Nat := do
  let isDone := (← get).tasks.all (·.noticed)
  match ← if isDone then pure none else interruption? with
  | some code => pure code
  | none =>
    noticeEnds
    if (← get).tasks.any fun task => !task.noticed then goOnForever
    haveWaited fun _ => true
    pure 0

/-- Waits for a task, of whose end it is said which signal ended it; gives the exit code, which is
an error if waiting is cut short. -/
def waitFor (task : Task) : Run (Except Nat Nat) := do
  match ← if task.noticed then pure none else interruption? with
  | some code => pure (.error code)
  | none =>
    noticeEnds
    let isSame (other : Task) : Bool := other.number = task.number
    let ended := ((← get).tasks.find? isSame).getD task
    if !ended.noticed then goOnForever
    if !task.noticed then
      ended.processes.forM fun (_, ending) => tellEnd (ending.getD (.exited 0))
    haveWaited isSame
    pure (.ok (codeOf ended.ending))

/-- Waits for tasks in turn; gives the exit code of the last one that there is. -/
def waitForEach : Nat → List Octets → Run Nat
  | code, [] => pure code
  | code, name :: names => do
    let task? ←
      if name.head? = some '%' then some <$> findTask (some name)
      else
        let process ← wholeNumber name
        pure ((← get).tasks.find? fun task => task.process = process)
    match task? with
    | none => waitForEach code names
    | some task =>
      match ← waitFor task with
      | .error code => pure code
      | .ok code => waitForEach code names

/-- Waits for tasks. -/
def wait (arguments : List Octets) : Run Nat := do
  let (_, names) ← takeOptions "" "" arguments
  if names.isEmpty then waitForAll else waitForEach 127 names

end Shell

end KernelCensus
