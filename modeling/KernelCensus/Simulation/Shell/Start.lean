/-
# Starting shells

A shell runs a text that it is given, a file, or what it reads.  It reads and runs its script line
by line, so that what stands before a line that is no script still runs.
-/
import KernelCensus.Simulation.Shell.Evaluation
import KernelCensus.Simulation.Shell.Mail

namespace KernelCensus

namespace Shell

/-! ## Scripts -/

/-- How many bytes of a script are read at once. -/
def blockSize : Nat := 8192

/-- The next bytes of a script, if there are more; zero bytes are left out.  What is held is printed
before they are read. -/
def nextBlock (source : Source) : Run (Option Octets) := do
  if source.isRead then
    let _ ← release
  match ← source.stream? with
  | none => pure none
  | some stream =>
    let block ← onWorld (Invocation.take stream (·.take blockSize))
    match block.toOption.getD [] with
    | [] => pure none
    | block => pure (some (block.filter (· ≠ '\x00')))

/-- What is left of a script itself, after the texts of aliases that are being read. -/
def Reader.own (reader : Reader) : Octets :=
  match reader.unfolding.getLast? with
  | some text => reader.rest.drop (reader.rest.length - text.left)
  | none => reader.rest

/-- What a reader has read of a script since another time and that was not shown, up to the end of
the line. -/
def readSince (before after : Reader) : Octets :=
  let hidden := before.own.drop (before.own.length - before.unshown)
  let (front, back) := hidden.splitAt (before.unshown - after.own.length)
  if front.isEmpty || front.getLast? = some '\n' then front
  else
    let line := back.takeWhile (· ≠ '\n')
    front ++ line ++ (back.drop line.length).take 1

/-- A reader with more of its script after what is left to read. -/
def Reader.extend (reader : Reader) (block : Octets) : Reader :=
  { reader with
    rest := reader.rest ++ block
    size := reader.size + block.length
    unshown := reader.unshown + block.length
    unfolding := reader.unfolding.map fun text => { text with left := text.left + block.length } }

/-- Texts with the line ends that they are cut at. -/
def linesIn (text : Octets) : List Octets :=
  let lines := Octets.split '\n' text
  lines.dropLast.map (· ++ ['\n']) ++ [lines.getLast?.getD []]

/-- Prints a text that was read, if there is one. -/
def showText (text : Octets) : Run Unit := do
  if !text.isEmpty then let _ ← put 2 text

/-- Prints lines, and asks for so many further ones before these. -/
def showLines (ask : Run Unit) : Nat → List Octets → Run Unit
  | 0, lines => showText lines.flatten
  | further + 1, lines => do
    showText (lines.headD [])
    ask
    showLines ask further lines.tail

/-- Reads a line of a script; what is no script is refused.  Where it matters that the text ends,
more of it is read, at most so many times.  For each further line `ask` is done. -/
def nextLine (source : Source) (ask : Run Unit) : Nat → Reader → Run (Line × Reader)
  | 0, reader => pure (.finish, reader)
  | bound + 1, reader => do
    let fresh := { reader with ahead := none, further := 0, atLineEnd := false }
    let (result, after) := readLine.run fresh
    match ← if after.ended then nextBlock source else pure none with
    | some block => nextLine source ask bound (reader.extend block)
    | none =>
      let since := readSince reader after
      let shows := source.isRead && (← get).isOn "verbose"
      showLines ask after.further (if shows then linesIn since else [])
      let after := { after with unshown := reader.unshown - since.length }
      match result with
      | .ok line =>
        let endAhead :=
          match line with
          | .finish => true
          | _ => after.ahead.any Token.isFinish
        modify fun state =>
          { state with texts := state.texts ++ after.texts, nextText := after.nextText, endAhead }
        modify fun state => { state with reached := after.line }
        pure (line, { after with texts := [], ended := false })
      | .error fault =>
        modify fun state => { state with reached := after.line }
        refuse fault

/-- The most lines of a script. -/
def maxLines : Nat := 1000000000

/-- Runs the lines of a script, at most so many; gives the last exit code. -/
def runLines (run : Command → Run Unit) (source : Source) : Nat → Reader → Nat → Run Nat
  | 0, _, code => pure code
  | bound + 1, reader, code => do
    let { nextText, aliases, .. } ← get
    match ← nextLine source (pure ()) maxLines { reader with nextText, aliases } with
    | (.finish, _) => pure code
    | (.blank, reader) =>
      heedReturn
      runLines run source bound reader code
    | (.command command, reader) =>
      if (← get).isOn "noexec" then runLines run source bound reader code
      else
        run command
        runLines run source bound reader (← get).status

/-- What is left to read of a source before anything was read, if it starts at a line. -/
def Source.start (source : Source) (line : Nat) : Reader :=
  match source with
  | .text script => { rest := script, size := script.length, line }
  | .stream _ | .standard => { rest := [], size := 0, line }

/-- Runs a script. -/
def runScript (run : Command → Run Unit) (source : Source) : Run Nat := do
  let outer := (← get).reached
  ensuring (runLines run source maxLines (source.start 1) 0) <|
    modify fun state => { state with reached := outer }

/-- How deep functions, scripts and substitutions may call each other before the shell is ended. -/
def maxCalls : Nat := 8000

/-- What runs commands that call each other at most so deep, where programs start like this. -/
def evaluator (launch : Program → Invocation → Job ExitStatus) : Nat → Evaluator
  | 0 =>
    let overflow {α : Type} : Run α := throw (.left (.killed 11 false))
    { command := fun _ _ => overflow, script := fun _ _ => overflow, launch }
  | calls + 1 =>
    { command := fun role command => runCommand (evaluator launch calls) role command
      script := fun tested source =>
        runScript (runCommand (evaluator launch calls) { tested }) source
      launch }

/-! ## Starting -/

/-- The scripts that a shell is asked to run, its name, the positional parameters, and whether it
was logged into. -/
structure Request where
  scripts : List Source
  name : Octets
  positional : List Octets
  login : Bool

/-- What arguments ask a shell to run.  Beside a script that is given, one is read from the standard
input only if that is asked for. -/
def request (arguments : List Octets) : Run Request := do
  let name := (← get).name
  let (found, operands) ← turnOptions ['c', 'l'] (arguments.length + 1) arguments
  let operands := operands.list
  let login := found.contains 'l'
  let reads := (← get).isOn "stdin"
  if found.contains 'c' then
    let others := if reads then [Source.standard] else []
    match operands with
    | [] => fail "-c requires an argument".toList
    | script :: name :: positional =>
      pure { scripts := .text script :: others, name, positional, login }
    | [script] =>
      pure { scripts := .text script :: others, name, positional := [], login }
  else
    match operands, reads with
    | file :: positional, false =>
      match ← openPath .read file with
      | .ok stream =>
        keepScript stream
        pure { scripts := [.stream stream], name := file, positional, login }
      | .error error =>
        fail ("cannot open ".toList ++ file ++ ": ".toList ++ openingFault .read error)
    | positional, _ =>
      modify fun state => state.turn "stdin" true
      pure { scripts := [.standard], name, positional, login }

/-- The path of the working directory as it was reached, if the environment says how. -/
def startPlace (look : World.Look) (invocation : Invocation) : Octets :=
  let given := (invocation.environment.lookup "PWD".toList).filter fun path =>
    path.head? = some '/' &&
      (look path).toOption.map Prod.fst = some invocation.here
  given.getD (pathOf invocation.here)

/-- The variables that a shell starts with in a directory, and the process that starts it.  The
environment gives some of them no value. -/
def startVariables (place : Octets) (parent : Nat) (environment : List (Octets × Octets)) :
    List (Octets × Variable) :=
  let own : List (Octets × Octets) :=
    [("IFS".toList, [' ', '\t', '\n']), (optionVariable, ['1']),
      ("PPID".toList, Octets.ofNat parent)]
  let prompts : List (Octets × Octets) :=
    [(pathVariable, standardPath), ("PS1".toList, ['#', ' ']), ("PS2".toList, ['>', ' ']),
      ("PS4".toList, ['+', ' '])]
  let start := (own ++ prompts).map fun (name, value) => (name, ({ value } : Variable))
  let all := environment.foldl (fun bindings (name, value) =>
    if isName name then
      Table.put name { value := (own.lookup name).getD value, exported := true } bindings
    else bindings) start
  Table.put "PWD".toList { value := some place, exported := true } all

/-! ### Asking -/

/-- How often a shell goes on at the end of what it reads, if it is told not to end there. -/
def maxEnds : Nat := 50

/-- Prints what a variable says that a shell asks with. -/
def ask (evaluator : Evaluator) (name : String) : Run Unit := do
  let text ← fillIn (substitute evaluator) (((← get).value? name.toList).getD [])
  let _ ← put 2 text

/-- Reads the next line of what a shell reads for itself, for which it may ask. -/
def askForLine (evaluator : Evaluator) (source : Source) (reader : Reader) :
    Run (Line × Reader) := do
  let asks := (← get).asks
  if asks then
    lookForMail
    ask evaluator "PS1"
  let { nextText, aliases, .. } ← get
  let further := if asks then ask evaluator "PS2" else pure ()
  nextLine source further maxLines { reader with nextText, aliases }

/-- Runs what a shell reads for itself, at most so many lines.  At the end of it a shell says that
it ends, if it asks, or that it does not end there; it has done the latter so many times. -/
def runOwnLines (evaluator : Evaluator) (source : Source) : Nat → Nat → Reader → Run Unit
  | 0, _, _ => pure ()
  | bound + 1, ends, reader => do
    let (line, reader) ← askForLine evaluator source reader
    modify fun state => { state with ownReached := state.reached }
    match line, reader with
    | .finish, reader =>
      let state ← get
      if ends < maxEnds then
        if state.isOn "ignoreeof" then
          let _ ← put 2 "\nUse \"exit\" to leave shell.\n".toList
          runOwnLines evaluator source bound (ends + 1) reader
        else if state.asks then
          let _ ← put 2 ['\n']
    | .blank, reader =>
      heedReturn
      runOwnLines evaluator source bound 0 reader
    | .command command, reader =>
      if !(← get).isOn "noexec" then evaluator.command {} command
      runOwnLines evaluator source bound 0 reader

/-- Runs a script that a shell was asked to run, and waits for more of it where it ends only
because a pipe was full. -/
def runOwn (evaluator : Evaluator) (source : Source) (reader : Reader) : Run Unit := do
  match source with
  | .text _ => let _ ← evaluator.script false source
  | .stream _ | .standard =>
    let result ← attempt (runOwnLines evaluator source maxLines 0 reader)
    match result, ← source.stream? with
    | .ok _, some stream => onWorld (Invocation.await stream)
    | .error .failed, some stream => onWorld (Invocation.await stream)
    | _, _ => pure ()
    resume result

/-- Ends the local variables and options of so many commands, whatever fails. -/
def dropAllFrames : Nat → Run Unit
  | 0 => pure ()
  | count + 1 => do
    let _ ← attempt dropFrame
    dropAllFrames count

/-- Does something, which only ends where it fails if the shell is one that asks; says whether it
was done to the end. -/
def recovering (action : Run Unit) : Run Bool := do
  let goOn (stop : Stop) (code : Nat) : Run Bool := do
    if !(← get).asks then throw stop
    dropAllFrames (← get).frames.length
    modify fun state =>
      { state with status := code, loops := 0, functionDepth := 0, tracing := false }
    pure false
  match ← attempt action with
  | .ok _ => pure true
  | .error .failed => goOn .failed 2
  | .error .interrupted => goOn .interrupted 130
  | .error stop => throw stop

/-- Runs the scripts that a shell was asked to run.  One that asks goes on after a failure with what
there is to read beyond the block it has, at most so many times. -/
def runAll (evaluator : Evaluator) : Nat → List Source → Run Unit
  | 0, _ => pure ()
  | _, [] => pure ()
  | bound + 1, source :: sources => do
    let action := recovering (runOwn evaluator source (source.start (← get).reached))
    match ← attempt action, sources with
    | .ok true, _ => runAll evaluator bound sources
    | .ok false, _ =>
      match source with
      | .text _ => runAll evaluator bound [.standard]
      | .stream _ | .standard => runAll evaluator bound [source]
    | .error (.returned status chosen), _ :: _ =>
      modify fun state => { state with status, leaving := some chosen }
      runAll evaluator bound sources
    | .error stop, _ => throw stop

/-- Runs the file that a variable or a text names, if it is there; things are put in for the
parameters in the name. -/
def runProfile (evaluator : Evaluator) (name : Octets) : Run Unit := do
  let _ ← recovering do
    let path ← fillIn (substitute evaluator) name
    match ← openPath .read path with
    | .error _ => pure ()
    | .ok stream =>
      match ← attempt (withScript stream (evaluator.script false (.stream stream))) with
      | .error (.returned code _) => setStatus code
      | result => let _ ← resume result

/-- Runs the files that a shell runs before anything else: one that was logged into, and one that
asks. -/
def runProfiles (evaluator : Evaluator) (login : Bool) : Run Unit := do
  if login then
    runProfile evaluator "/etc/profile".toList
    runProfile evaluator "$HOME/.profile".toList
  let state ← get
  match state.value? "ENV".toList with
  | some name => if state.asks && !name.isEmpty then runProfile evaluator name
  | none => pure ()

/-- Runs a shell, which starts programs like this. -/
def run (launch : Program → Invocation → Job ExitStatus) (invocation : Invocation) :
    Job ExitStatus := do
  let process ←
    match invocation.number with
    | some number => pure number
    | none => modifyGet fun world => (world.begin invocation).swap
  let invocation := { invocation with number := some process }
  let place := startPlace ((← get).look invocation) invocation
  let state : State :=
    { origin := invocation
      name := invocation.name
      process
      number := process
      parent := invocation.parent
      bindings := startVariables place invocation.parent invocation.environment
      unsaid := optionLetters.map Prod.fst
      here := invocation.here
      place
      descriptors := invocation.descriptors
      limits := invocation.limits
      mask := invocation.mask
      mailMoved := invocation.environment.any fun (name, _) => mailVariables.contains name
      ignored := invocation.ignored }
  let evaluator := evaluator launch maxCalls
  let job : Run ExitStatus := do
    let result ← attempt do
      let request ← request invocation.arguments
      modify fun state =>
        { state with unsaid := [], name := request.name, positional := request.positional }
      if (← get).isOn "interactive" then modify fun state => state.turn "monitor" true
      refuseJobControl
      runProfiles evaluator request.login
      setLine 1
      runAll evaluator maxLines request.scripts
    let _ ← release
    conclude evaluator result
  let (result, _) ← (job.run).run state
  modify (·.bury [process])
  match result with
  | .ok status => pure status
  | .error _ => pure (.exited 2)

end Shell

end KernelCensus
