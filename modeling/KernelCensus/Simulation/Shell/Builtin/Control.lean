/-
# Builtins that control what runs

Loops, functions and the shell are left; texts and files are run as scripts; and the shell becomes
another program.
-/
import KernelCensus.Simulation.Shell.Builtin.Signals
import KernelCensus.Simulation.Shell.Lookup

namespace KernelCensus

namespace Shell

/-! ## Leaving -/

/-- How many loops to leave: as many as an argument says, but not more than there are. -/
def loopLevels (arguments : List Octets) : Run Nat := do
  let count ←
    match arguments with
    | [] => pure 1
    | argument :: _ =>
      let count ← wholeNumber argument
      if count = 0 then fail ("Illegal number: ".toList ++ argument) else pure count
  return min count (← get).loops

/-- Leaves loops. -/
def breakLoops (arguments : List Octets) : Run Nat := do
  match ← loopLevels arguments with
  | 0 => pure 0
  | levels => throw (.broke levels)

/-- Goes on with the next round of a loop. -/
def continueLoop (arguments : List Octets) : Run Nat := do
  match ← loopLevels arguments with
  | 0 => pure 0
  | levels => throw (.continued levels)

/-- Leaves a function or a script; a failure ends the shell under the option for that. -/
def returnFrom (_ : Evaluator) (tested : Bool) (arguments : List Octets) : Run Nat := do
  let code ←
    match arguments with
    | [] => pure (← get).status
    | argument :: _ => wholeNumber argument
  if code ≠ 0 && !tested && (← get).isOn "errexit" then throw (.exited (some code))
  throw (.returned code !arguments.isEmpty)

/-- Ends the shell. -/
def exitShell (arguments : List Octets) : Run Nat := do
  match arguments with
  | [] => throw (.exited (← get).kept)
  | argument :: _ => throw (.exited (some (← wholeNumber argument)))

/-! ## Scripts -/

/-- Runs its arguments as a script. -/
def eval (evaluator : Evaluator) (tested : Bool) (arguments : List Octets) : Run Nat :=
  evaluator.script tested (.text (Octets.join [' '] arguments))

/-- The path of a script, which is looked for like a program if its name has no slash. -/
def scriptPath (name : Octets) : Run Octets := do
  if name.contains '/' then pure name
  else
    let look ← view
    let state ← get
    let places := state.searchPath.filter (·.holding ≠ .builtins)
    let paths := places.map fun place => inDirectory place.directory name
    match paths.find? (isFile look) with
    | some path => pure path
    | none => fail (name ++ ": not found".toList)

/-- Runs a file as a script. -/
def source (evaluator : Evaluator) (_ : Bool) (arguments : List Octets) : Run Nat := do
  let (_, operands) ← takeOptions "" "" arguments
  match operands with
  | [] => pure 0
  | name :: _ =>
    let path ← scriptPath name
    match ← openPath .read path with
    | .error error =>
      fail ("cannot open ".toList ++ path ++ ": ".toList ++ openingFault .read error)
    | .ok stream =>
      let speaker := (← get).speaker
      let result ← attempt <| withScript stream do
        modify fun state => { state with speaker := some path }
        evaluator.script false (.stream stream)
      modify fun state => { state with speaker }
      match result with
      | .error (.returned code _) => endReturn code
      | result => resume result

/-! ## Programs -/

/-- Starts the first program among paths with arguments, which may take the place of the shell; what
keeps it from starting is complained of, and gives an exit code. -/
def start (evaluator : Evaluator) (replaces : Bool) (paths : List Octets) (name : Octets)
    (arguments : List Octets) : Run (Except Nat ExitStatus) := do
  match firstProgram (← view) .notFound paths with
  | .error missing =>
    complain (name ++ ": ".toList ++ missing.words.toList)
    pure (.error missing.code)
  | .ok (path, program) =>
    let invocation := (← get).invocation replaces path name arguments
    return .ok (← onWorld (evaluator.launch program invocation))

/-- Becomes another program; where that is not possible, the shell ends. -/
def exec (evaluator : Evaluator) (_ : Bool) (arguments : List Octets) : Run Nat := do
  match arguments with
  | [] => pure 0
  | name :: arguments =>
    let places := (← get).searchPath
    let paths := if name.contains '/' then [name] else programPaths places name 0
    match ← start evaluator true paths name arguments with
    | .ok status => throw (.left status)
    | .error code => throw (.exited (some code))

/-! ## Names -/

/-- Describes what words name. -/
def describeAll (builtin? : Octets → Option Builtin) (evaluator : Evaluator) :
    Nat → List Octets → Run Nat
  | code, [] => pure code
  | code, name :: names => do
    let next ← describe evaluator builtin? true false name
    describeAll builtin? evaluator (max code next) names

/-- Where the programs are that were found, in the order of a table with so many rows; a mark
tells those which are looked for again the next time. -/
def State.knownPrograms (state : State) (rows : Nat) : List Octets :=
  let places := state.searchPath
  (inRows rows Known.name state.known).filterMap fun (known : Known) =>
    match places[known.place]? with
    | some ⟨directory, .programs⟩ =>
      some (inDirectory directory known.name ++ (if known.stale then ['*'] else []))
    | _ => none

/-- Looks programs up, forgets those that were found, or lists them. -/
def hash (builtin? : Octets → Option Builtin) (evaluator : Evaluator)
    (arguments : List Octets) : Run Nat := do
  let (options, names) ← takeOptions "r" "" arguments
  if !options.isEmpty then
    modify fun state => { state with known := [] }
    pure 0
  else if names.isEmpty then answer (linesOf ((← get).knownPrograms 31))
  else
    let codes ← names.mapM fun name => do
      modify (·.forget name)
      match ← lookUp evaluator builtin? true false name with
      | .nothing missing =>
        complain (name ++ ": ".toList ++ missing.words.toList)
        pure 1
      | _ => pure 0
    pure (codes.foldl max 0)

/-- Prints how much time was spent; none is counted. -/
def times (_ : List Octets) : Run Nat :=
  let line := "0m0.000000s 0m0.000000s".toList
  answer (linesOf [line, line])

end Shell

end KernelCensus
