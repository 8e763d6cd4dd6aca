/-
# Running commands

A command changes the state of the shell, acts on the world and leaves an exit code.  What stands
in parentheses, in a pipeline or in a substitution runs in a copy of the shell, which changes only
the world.  Loops run a bounded number of rounds, and what is nested is bounded too.
-/
import KernelCensus.Simulation.Shell.Builtin.Aliases
import KernelCensus.Simulation.Shell.Builtin.Control
import KernelCensus.Simulation.Shell.Builtin.Limits
import KernelCensus.Simulation.Shell.Builtin.Place
import KernelCensus.Simulation.Shell.Builtin.Text
import KernelCensus.Simulation.Shell.Builtin.Variables

namespace KernelCensus

namespace Shell

/-! ## The builtins -/

/-- The builtins that do not look at the others. -/
def simpleBuiltin? (name : String) : Option Builtin :=
  match name with
  | ":" => some (.special fun _ => pure 0)
  | "true" => some (.plain fun _ => pure 0)
  | "false" => some (.plain fun _ => pure 1)
  | "echo" => some (.replaceable echo)
  | "printf" => some (.replaceable printf)
  | "read" => some (.plain readInto)
  | "test" => some (.replaceable test)
  | "[" => some (.replaceable bracket)
  | "cd" => some (.plain changePlace)
  | "chdir" => some (.replaceable changePlace)
  | "pwd" => some (.plain printPlace)
  | "export" => some { Builtin.special exportNames with assigns := true }
  | "readonly" => some { Builtin.special fixNames with assigns := true }
  | "local" => some { Builtin.special localNames with assigns := true }
  | "unset" => some (.special unsetNames)
  | "set" => some (.special setParameters)
  | "shift" => some (.special shiftParameters)
  | "getopts" => some (.plain nextOption)
  | "trap" => some (.special trap)
  | "kill" => some (.plain kill)
  | "wait" => some (.plain wait)
  | "umask" => some (.plain umask)
  | "break" => some (.special breakLoops)
  | "continue" => some (.special continueLoop)
  | "return" => some { isSpecial := true, run := returnFrom }
  | "exit" => some (.special exitShell)
  | "times" => some (.special times)
  | "eval" => some { isSpecial := true, run := eval }
  | "." => some { isSpecial := true, run := source }
  | "exec" => some { isSpecial := true, run := exec }
  | "jobs" => some (.plain jobs)
  | "fg" => some (.plain resumeTask)
  | "bg" => some (.plain resumeTask)
  | "ulimit" => some (.plain ulimit)
  | "alias" => some { Builtin.plain setAliases with assigns := true }
  | "unalias" => some (.plain unsetAliases)
  | _ => none

/-- Describes the first word after the options of `command`. -/
def describeFirst (builtin? : Octets → Option Builtin) (evaluator : Evaluator)
    (arguments : List Octets) : Run Nat := do
  let (options, names) ← takeOptions "pvV" "" arguments
  match names with
  | [] => pure 0
  | name :: _ =>
    let letters := options.map Prod.fst
    describe evaluator builtin? (letters.contains 'V') (letters.contains 'p') name

/-- The builtin of a name, where those that look at others look at these. -/
def builtinAmong? (others : Octets → Option Builtin) (name : Octets) : Option Builtin :=
  match String.ofList name with
  | "type" => some { run := fun evaluator _ => describeAll others evaluator 0 }
  | "hash" => some { run := fun evaluator _ => hash others evaluator }
  | "command" => some { run := fun evaluator _ => describeFirst others evaluator }
  | text => simpleBuiltin? text

/-- The builtin of a name. -/
def builtin? : Octets → Option Builtin :=
  builtinAmong? (builtinAmong? fun name => simpleBuiltin? (String.ofList name))

/-! ## Ends and signals -/

/-- How a process ends that stopped like this; what is arranged for the end is run, and sees the
exit code as the one that was before it. -/
def conclude (evaluator : Evaluator) (result : Except Stop Unit) : Run ExitStatus := do
  match result with
  | .error (.left status) => pure status
  | result =>
    let last := (← get).status
    let code :=
      match result with
      | .error (.exited (some code)) => code
      | .error (.returned code _) => code
      | .error .failed => 2
      | .error .interrupted => 130
      | _ => last
    match (← get).traps.lookup 0 with
    | none => pure (.exited (code % 256))
    | some action =>
      modify fun state =>
        { state with
          status := code
          kept := some code
          traps := Table.erase 0 state.traps
          leaving := none }
      match ← attempt (evaluator.script false (.text action)) with
      | .error (.exited (some other)) => pure (.exited (other % 256))
      | .error .failed => pure (.exited 2)
      | .error (.left status) => pure status
      | _ => pure (.exited (code % 256))

/-- Runs something in a copy of the shell, where only ignored signals stay arranged for, and which
has no tasks unless it takes the place of the shell. -/
def apart (evaluator : Evaluator) (replaces : Bool) (action : Run Unit) : Run ExitStatus := do
  let outer ← get
  let number ←
    if replaces then pure outer.number
    else onWorld (modifyGet fun world => (world.begin outer.self).swap)
  set { outer with
        isCopy := true
        number
        parent := if replaces then outer.parent else outer.number
        scripts := []
        reached := outer.ownReached
        traps := outer.traps.filter fun (_, action) => action.isEmpty
        tasks := if replaces then outer.tasks else []
        lostProcess := false }
  let status ← conclude evaluator (← attempt action)
  if !replaces then onHalted fun world => ((), world.bury [number])
  set outer
  pure status

/-- Does what is arranged for signals that came.  It sees the exit code from before, and leaves
it. -/
def settle (evaluator : Evaluator) : List Nat → Run Unit
  | [] => pure ()
  | signal :: signals => do
    let state ← get
    match (state.traps.lookup signal).filter fun action => !action.isEmpty with
    | none => pure ()
    | some action =>
      if !state.ignored.contains signal then
        let code := state.kept.getD state.status
        modify fun state => { state with kept := some code }
        let _ ← ensuring (evaluator.script false (.text action)) <|
          modify fun after => { after with kept := state.kept }
        setStatus code
    settle evaluator signals

/-- Looks for signals that came, and ends with one for which nothing is arranged.  In the middle
of a command, the others wait. -/
def checkSignals (evaluator : Evaluator) (waits : Bool) : Run Unit := do
  let state ← get
  let signals ← onWorld do
    let world ← get
    let (own, others) := world.sent.partition fun (number, signal) =>
      number = state.number && !(waits && state.isReadyFor signal)
    set { world with sent := others }
    pure (own.map Prod.snd)
  (signals.filter fun signal => isDeadly signal && !state.isReadyFor signal).forM receive
  let signals := if state.lostProcess then 17 :: signals else signals
  if !waits && !signals.isEmpty then
    modify fun state => { state with lostProcess := false }
    settle evaluator ((List.range signalCount).filter signals.contains)

/-- The exit code of a process for which the shell waited, unless a signal came that ends the
shell. -/
def waitedFor (evaluator : Evaluator) (status : ExitStatus) : Run Nat := do
  checkSignals evaluator true
  noticeOwn
  exitCode status

/-- Sets the exit code after a command; a failure that is not tested for ends the shell under the
option for that. -/
def finish (tested : Bool) (code : Nat) : Run Unit := do
  setStatus code
  if code ≠ 0 && !tested && (← get).isOn "errexit" then throw (.exited (some code))
  heedReturn

/-- What commands print in a copy of the shell; the exit code is kept apart. -/
def substitute (evaluator : Evaluator) (commands : List Command) : Run Octets := do
  requirePipe 0
  let pipe ← addStream (.pipe none)
  let status ← apart evaluator false do
    modify fun state => state.bind 1 pipe
    if commands.isEmpty then setStatus 0
    commands.forM (evaluator.command { last := true })
  let code ← if commands.isEmpty then pure 0 else waitedFor evaluator status
  modify fun state => { state with substituted := code }
  return ((← onWorld get).held pipe).toOption.getD []

/-! ## Simple commands -/

/-- Whether the command that fields start takes assignments as arguments. -/
def State.takesAssignments (state : State) : List Octets → Bool
  | [] => false
  | name :: names =>
    match state.named? builtin? true name with
    | some (.builtin builtin) =>
      if name = "command".toList then state.takesAssignments names else builtin.assigns
    | _ => false

/-- The fields of the words of a command, after those of the words before them. -/
def expandCommand (substitute : Substitution) : List Word → List Octets → Run (List Octets)
  | [], fields => pure fields
  | word :: words, fields => do
    let state ← get
    match (assignment? word).filter fun _ => state.takesAssignments fields with
    | some (name, value) =>
      let field := name ++ '=' :: (← expandValue substitute value)
      expandCommand substitute words (fields ++ [field])
    | none =>
      let more ← expandFields substitute word
      expandCommand substitute words (fields ++ more)

/-- Makes the assignments before a command; they may be exported, and undone after it. -/
def makeAssignments (substitute : Substitution) (temporary : Bool) :
    List (Octets × Word) → Run (List (Octets × Octets))
  | [] => pure []
  | (name, word) :: assignments => do
    let value ← expandValue substitute word
    if temporary then makeLocal name
    assign name value
    if temporary then
      modify fun state => state.putVariable name { state.variable name with exported := true }
    return (name, value) :: (← makeAssignments substitute temporary assignments)

/-- A text with what is put in for the parameters and substitutions in it; it is left as it is where
that fails.  An end that was read ahead stands at the front of the first script in it. -/
def fillIn (substitute : Substitution) (text : Octets) : Run Octets := do
  let state ← get
  let ahead := if state.endAhead then some Token.finish else none
  let { aliases, nextText, .. } := state
  let reader : Reader := { rest := text, size := text.length, ahead, aliases, nextText }
  let (result, after) := readText.run reader
  modify fun state =>
    { state with
      texts := state.texts ++ after.texts
      nextText := after.nextText
      endAhead := after.ahead.any Token.isFinish }
  match result with
  | .error fault =>
    setLine after.line
    complain ("Syntax error: ".toList ++ fault)
    setLine state.line
    setStatus 2
    pure text
  | .ok word =>
    match ← attempt (expandParts substitute false false word) with
    | .ok atoms => pure (textOf atoms)
    | .error .failed =>
      setStatus 2
      pure text
    | .error stop => throw stop

/-- Prints a command before it runs, where the descriptors were these. -/
def trace (substitute : Substitution) (descriptors : List (Nat × Nat))
    (assigned : List (Octets × Octets)) (fields : List Octets) : Run Unit := do
  let state ← get
  if state.isOn "xtrace" && !state.tracing then
    modify fun state => { state with tracing := true }
    let front ← fillIn substitute ((state.value? "PS4".toList).getD [])
    modify fun state => { state with tracing := false }
    let words := (assigned.map fun (name, value) => name ++ '=' :: value) ++ fields
    let _ ← onWorld (({ state with descriptors }).self.put 2
      (front ++ Octets.join [' '] words ++ ['\n']))

/-- How deep functions may call each other. -/
def maxFunctionDepth : Nat := 1000

/-- Runs the body of a function with arguments. -/
def callFunction (evaluator : Evaluator) (tested : Bool) (body : Command)
    (arguments : List Octets) : Run Nat := do
  let outer ← get
  if maxFunctionDepth ≤ outer.functionDepth then
    fail "Maximum function recursion depth (1000) reached".toList
  set { outer with
        positional := arguments
        loops := 0
        functionDepth := outer.functionDepth + 1
        optionNumber := 1
        optionPlace := none }
  let result ← attempt (evaluator.command { tested } body)
  modify fun state =>
    { state with
      positional := outer.positional
      loops := outer.loops
      functionDepth := outer.functionDepth
      optionNumber := outer.optionNumber
      optionPlace := outer.optionPlace }
  match result with
  | .ok _ => return (← get).status
  | .error (.returned code _) => endReturn code
  | .error stop => throw stop

/-- Runs a builtin, and prints what it held; it is an error if that is not possible.  Where it
counts as special, its failure ends the shell. -/
def callBuiltin (evaluator : Evaluator) (tested special : Bool) (builtin : Builtin)
    (name : Octets) (arguments : List Octets) : Run Nat := do
  let speaker := (← get).speaker
  modify fun state => { state with speaker := some name }
  let result ← attempt (builtin.run evaluator tested arguments)
  let written ← release
  if !written && result.toOption.isSome then complain (name ++ ": I/O error".toList)
  modify fun state => { state with speaker }
  match result with
  | .error .failed => if special then throw .failed else pure 2
  | .ok code => pure (if written then code else code ||| 1)
  | .error stop => throw stop

/-- The words after `command` and its options, unless it describes or its options are wrong, and
whether an option asks for the standard directories. -/
def afterCommand (standard : Bool) : List Octets → Option (Bool × List Octets)
  | ['-', '-'] :: names => some (standard, names)
  | ('-' :: c :: cs) :: names =>
    if (c :: cs).all (· == 'p') then afterCommand true names else none
  | names => some (standard, names)

/-- What is called: what the first field names as far as that is known before the search path is
looked through, its name and its arguments, whether `command` stood before it, and whether programs
are looked for in the standard directories. -/
structure Call where
  named : Option Named
  name : Octets
  arguments : List Octets
  plain : Bool := false
  standard : Bool := false

/-- What fields call; a bound on how often `command` stands before it is given. -/
def resolve : Nat → Bool → Bool → List Octets → Run (Option Call)
  | 0, _, _, _ => pure none
  | _, _, _, [] => pure none
  | bound + 1, plain, standard, name :: arguments => do
    let named := (← get).named? builtin? (!plain) name
    match named, afterCommand standard arguments with
    | some (.builtin _), some (more, names) =>
      if name = "command".toList && !names.isEmpty then resolve bound true more names
      else pure (some { named, name, arguments, plain, standard })
    | _, _ => pure (some { named, name, arguments, plain, standard })

/-- Whether failing ends the shell. -/
def Call.isSpecial (call : Call) : Bool :=
  match call.named with
  | some (.builtin builtin) => builtin.isSpecial && !call.plain
  | _ => false

/-- Whether redirections outlast it. -/
def Call.keepsDescriptors (call : Call) : Bool :=
  match call.named with
  | some (.builtin _) => call.name = "exec".toList
  | _ => false

/-- Whether something is arranged for signals or for the end. -/
def State.arranges (state : State) : Bool :=
  state.traps.any fun (_, action) => !action.isEmpty

/-- Whether a program may take the place of the shell: nothing comes after it. -/
def State.givesWay (state : State) (role : Role) : Bool :=
  role.last && !state.arranges

/-- Ends like a process that took the place of this one, if nothing comes after it. -/
def giveWay (role : Role) (status : ExitStatus) : Run Unit := do
  if (← get).givesWay role then throw (.left status)

/-- What is called in the end: the search path is looked through where that was not known before. -/
def Call.found (call : Call) (evaluator : Evaluator) : Run Named :=
  let again := lookUp evaluator builtin? (!call.plain) call.standard call.name
  match call.named with
  | some (.builtin builtin) => if builtin.isRegular then pure (.builtin builtin) else again
  | _ => again

/-- Runs what is called. -/
def Call.run (call : Call) (evaluator : Evaluator) (role : Role) : Run Nat := do
  match ← call.found evaluator with
  | .function body => callFunction evaluator role.tested body call.arguments
  | .builtin builtin =>
    callBuiltin evaluator role.tested call.isSpecial builtin call.name call.arguments
  | .nothing missing =>
    complain (call.name ++ ": ".toList ++ missing.words.toList)
    pure missing.code
  | .program paths => do
    let replaces := (← get).givesWay role
    match ← start evaluator replaces paths call.name call.arguments with
    | .error code =>
      noticeOwn
      pure code
    | .ok status =>
      giveWay role status
      waitedFor evaluator status

/-- The variable that keeps the last field of the last command in a shell that is interactive. -/
def lastField : Octets :=
  ['_']

/-- Runs a simple command; gives its exit code. -/
def runSimple (evaluator : Evaluator) (role : Role) (assignments : List (Octets × Word))
    (words : List Word) (redirects : List Redirect) : Run Nat := do
  modify fun state => { state with substituted := 0 }
  let substitute := substitute evaluator
  let fields ← expandCommand substitute words []
  let call? ← resolve (fields.length + 1) false false fields
  let outer := (← get).descriptors
  let targets ← targetsOf substitute redirects
  match call? with
  | none =>
    withDescriptors false do
      if ← redirectAll substitute true targets then
        let assigned ← makeAssignments substitute false assignments
        trace substitute outer assigned fields
        return (← get).substituted
      else pure 2
  | some call =>
    let act : Run Nat := do
      if ← redirectAll substitute true targets then
        let assigned ← makeAssignments substitute (!call.isSpecial) assignments
        trace substitute outer assigned fields
        call.run evaluator role
      else if call.isSpecial then throw .failed
      else pure 2
    let placed := withDescriptors call.keepsDescriptors act
    let code ← if call.isSpecial then placed else withLocals placed
    match fields.getLast? with
    | some last =>
      let state ← get
      if state.isOn "interactive" && state.functionDepth = 0 then assign lastField last
    | none => pure ()
    pure code

/-! ## Loops -/

/-- The most rounds of a loop; one in the background that takes so many is never waited for. -/
def State.maxRounds (state : State) : Nat :=
  if state.inBackground then 100000 else 1000000000

/-- The most streams that a loop in the background opens without counting as one that goes on for
ever. -/
def maxStreams : Nat := 30000

/-- Does nothing more in the background where so many streams were opened. -/
def heedStreams : Run Unit := do
  if (← get).inBackground then
    let opened ← onWorld do return (← get).streams.size
    if maxStreams < opened then goOnForever

/-- Whether a loop goes on after one round, and with which exit code. -/
inductive Round
  | goesOn (code : Nat)
  | ends (code : Nat)
  deriving DecidableEq, Repr

/-- Runs one round of a loop. -/
def oneRound (round : Run Round) : Run Round := do
  match ← attempt round with
  | .ok round => pure round
  | .error (.broke levels) => if levels ≤ 1 then pure (.ends 0) else throw (.broke (levels - 1))
  | .error (.continued levels) =>
    if levels ≤ 1 then pure (.goesOn 0) else throw (.continued (levels - 1))
  | .error stop => throw stop

/-- Runs something inside one more loop; its result is the exit code. -/
def inLoop (action : Run Nat) : Run Unit := do
  modify fun state => { state with loops := state.loops + 1 }
  let code ← ensuring action <| modify fun state => { state with loops := state.loops - 1 }
  setStatus code

/-- Runs the condition of a loop whose body gave an exit code: that is also the code of a return
from the condition without one. -/
def conditionAfter (code : Nat) (condition : Run Bool) : Run Bool := do
  match ← attempt condition with
  | .error (.returned _ false) => throw (.returned code false)
  | result => resume result

/-- Runs a body while a condition holds, for at most so many rounds; gives the last exit code. -/
def roundsWhile (condition : Run Bool) (body : Run Unit) : Nat → Nat → Run Nat
  | 0, _ => goOnForever
  | bound + 1, code => do
    let round : Run Round := do
      if ← conditionAfter code condition then
        body
        return .goesOn (← get).status
      else pure (.ends code)
    match ← oneRound round with
    | .goesOn code => roundsWhile condition body bound code
    | .ends code => pure code

/-- Runs a body for each word; gives the last exit code. -/
def roundsOver (name : Octets) (body : Run Unit) : Nat → List Octets → Run Nat
  | code, [] => pure code
  | _, word :: words => do
    assign name word
    let round : Run Round := do
      body
      return .goesOn (← get).status
    match ← oneRound round with
    | .goesOn code => roundsOver name body code words
    | .ends code => pure code

/-- Whether one of some patterns matches a text. -/
def matchesAny (substitute : Substitution) (subject : Octets) : List Word → Run Bool
  | [] => pure false
  | pattern :: patterns => do
    let atoms ← expandWhole substitute pattern
    if isMatch (glyphsOf atoms) subject then pure true else matchesAny substitute subject patterns

/-- The body of the first case that matches, if there is such a case. -/
def chooseCase (substitute : Substitution) (subject : Octets) :
    List (List Word × Option Command) → Run (Option Nat)
  | [] => pure none
  | (patterns, _) :: cases => do
    if ← matchesAny substitute subject patterns then pure (some 0)
    else return (← chooseCase substitute subject cases).map (· + 1)

/-! ## Commands -/

/-- Does what a command says, unless commands are only read. -/
def unlessOnlyRead (action : Run Unit) : Run Unit := do
  if !(← get).isOn "noexec" then action

/-- Makes processes for a task; gives their numbers. -/
def beginProcesses : Nat → Run (List Nat)
  | 0 => pure []
  | count + 1 => do
    let { origin, .. } ← get
    let number ← onWorld (modifyGet fun world => (world.begin origin).swap)
    return number :: (← beginProcesses count)

/-- Runs something in the background, in so many processes. -/
def runBackground (count : Nat) (action : Run (List ExitStatus)) : Run Unit := do
  let outer ← get
  let processes ← beginProcesses count
  let nothing ← addStream ⟨.device .null, true, false⟩
  modify fun state =>
    { state.bind 0 nothing with inBackground := true, ignored := [2, 3] ++ state.ignored }
  let statuses ← attempt action
  set outer
  let isEndless ← onHalted fun world =>
    if world.halt = some .endless then (true, { world with halt := none }) else (false, world)
  let endings := if isEndless then [] else (statuses.toOption.getD []).map some
  modify fun state =>
    { state with
      lastProcess := processes.getLast?
      tasks :=
        { number := Task.freeNumber state.tasks
          processes := processes.zip (endings ++ List.replicate count none) } ::
            Task.makingRoom state.tasks
      status := 0 }

/-- How many bytes pipes have room for: first, and each time that this was not enough. -/
def rooms : List Nat := [65536, 1048576, 16777216]

/-- Runs a pipeline in which pipes have so much room.  If its last stage waits for what did not fit,
and what it prints still has room, the pipeline runs again from where it started, with more room. -/
def withRoom (pipeline : Nat → Run (List ExitStatus)) : List Nat → Run (List ExitStatus)
  | [] => goOnForever
  | room :: rooms => do
    let state ← get
    let world ← onHalted fun world => (world, world)
    let result ← attempt (pipeline room)
    let output := (state.descriptors.lookup 1).getD world.streams.size
    let (halt, stuck) ← onHalted fun after => ((after.halt, after.isFull output), after)
    match halt with
    | some (.waiting full) =>
      if world.streams.size ≤ full && !stuck then
        set state
        onHalted fun _ => ((), world)
        withRoom pipeline rooms
      else resume result
    | _ => resume result

/-- Looks up what a stage of a pipeline names, so that the shell remembers it. -/
def rememberStage (evaluator : Evaluator) (stage : Command) : Run Unit := do
  match stage with
  | .simple _ _ (word :: _) _ =>
    match (plainText? word).filter isName with
    | none => pure ()
    | some name => let _ ← lookUp evaluator builtin? true false name
  | _ => pure ()

mutual

/-- Runs a command. -/
def runCommand (evaluator : Evaluator) (role : Role) : Command → Run Unit
  | .simple line assignments words redirects => unlessOnlyRead do
    setLine line
    let code ← runSimple evaluator role assignments words redirects
    setStatus code
    checkSignals evaluator false
    finish role.tested code
  | .redirected line body redirects => unlessOnlyRead do
    setLine line
    let targets ← targetsOf (substitute evaluator) redirects
    withDescriptors false do
      if ← redirectAll (substitute evaluator) true targets then
        runCommand evaluator role.inner body
      else finish role.tested 2
  | .negation body => unlessOnlyRead do
    runCommand evaluator .condition body
    modify fun state => { state with status := if state.status = 0 then 1 else 0 }
  | .pipeline stages => unlessOnlyRead do
    let statuses ← withRoom (fun room => runStages evaluator role.tested room none stages) rooms
    checkSignals evaluator true
    noticeOwn
    statuses.forM tellEnd
    let code := codeOf (statuses.getLast?.getD (.exited 0))
    setStatus code
    checkSignals evaluator false
    finish role.tested code
  | .background line (.pipeline stages) => unlessOnlyRead do
    setLine line
    runBackground stages.length
      (withRoom (fun room => runStages evaluator false room none stages) rooms)
    heedReturn
  | .background line (.redirected _ body redirects) => unlessOnlyRead do
    setLine line
    let targets ← targetsOf (substitute evaluator) redirects
    runBackground 1 do
      let status ← apart evaluator false do
        if ← redirectAll (substitute evaluator) false targets then
          runCommand evaluator { last := true } body
        else throw .failed
      return [status]
    heedReturn
  | .background line body => unlessOnlyRead do
    setLine line
    runBackground 1 do
      return [← apart evaluator false (runCommand evaluator { last := true } body)]
    heedReturn
  | .conjunction first second => do
    runCommand evaluator .condition first
    if (← get).status = 0 then runCommand evaluator role second
  | .disjunction first second => do
    runCommand evaluator .condition first
    if (← get).status ≠ 0 then runCommand evaluator role second
  | .sequence first second => do
    runCommand evaluator role.inner first
    runCommand evaluator role second
  | .subshell line body redirects => unlessOnlyRead do
    setLine line
    let targets ← targetsOf (substitute evaluator) redirects
    let replaces := (← get).givesWay role
    let act : Run Unit := do
      if ← redirectAll (substitute evaluator) false targets then
        runCommand evaluator { role with last := true } body
      else throw .failed
    let status ← apart evaluator replaces act
    giveWay role status
    let code ← waitedFor evaluator status
    setStatus code
    checkSignals evaluator false
    finish role.tested code
  | .branch condition yes no => do
    runCommand evaluator .condition condition
    if (← get).status = 0 then runCommand evaluator role yes
    else
      match no with
      | some no => runCommand evaluator role no
      | none => setStatus 0
  | .loop whileTrue condition body => unlessOnlyRead do
    let holds : Run Bool := do
      heedStreams
      runCommand evaluator .condition condition
      return ((← get).status = 0) = whileTrue
    let bound := (← get).maxRounds
    inLoop (roundsWhile holds (runCommand evaluator role.inner body) bound 0)
  | .each line name words body => unlessOnlyRead do
    setLine line
    let fields ←
      match words with
      | some words => expandWords (substitute evaluator) words
      | none => pure (← get).positional
    inLoop (roundsOver name (runCommand evaluator role.inner body) 0 fields)
  | .choice line subject cases => unlessOnlyRead do
    setLine line
    let subject ← expandText (substitute evaluator) subject
    if (← get).leaving.isSome then setStatus 0
    heedReturn
    match ← chooseCase (substitute evaluator) subject cases with
    | none => setStatus 0
    | some number => runCase evaluator role number cases
  | .definition name body => unlessOnlyRead do
    modify fun state =>
      { state.forget name with functions := Table.put name body state.functions, status := 0 }
    heedReturn

/-- Runs the stages of a pipeline, where each reads what the one before it printed, of which there
is so much room for; says how they ended.  Another stage that waits for what did not fit is left
alone, as the ones after it may do with what it printed. -/
def runStages (evaluator : Evaluator) (tested : Bool) (room : Nat) (input : Option Nat) :
    List Command → Run (List ExitStatus)
  | [] => pure []
  | stage :: stages => do
    rememberStage evaluator stage
    if !stages.isEmpty then requirePipe (if input.isSome then 1 else 0)
    let pipe ← addStream (.pipe (some room))
    let status ← apart evaluator false do
      match input with
      | some pipe =>
        let stream ← addStream (.pipeEnd pipe)
        modify fun state => state.bind 0 stream
      | none => pure ()
      if !stages.isEmpty then modify fun state => state.bind 1 pipe
      runCommand evaluator { tested, last := true } stage
    if stages.isEmpty then pure [status]
    else
      onWorld (modify fun world => world.passOver pipe)
      return status :: (← runStages evaluator tested room (some pipe) stages)

/-- Runs the body of a case. -/
def runCase (evaluator : Evaluator) (role : Role) :
    Nat → List (List (List Part) × Option Command) → Run Unit
  | _, [] => pure ()
  | 0, (_, body) :: _ =>
    match body with
    | some body => runCommand evaluator role body
    | none => setStatus 0
  | number + 1, _ :: cases => runCase evaluator role number cases

end

end Shell

end KernelCensus
