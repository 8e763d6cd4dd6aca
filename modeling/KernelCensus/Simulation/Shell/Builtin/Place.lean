/-
# Builtins for the working directory

The working directory is kept as a location and as the path by which it was reached.  A step up
in that path leads back along it, even where a link was followed.
-/
import KernelCensus.Simulation.Shell.Builtin.Basic

namespace KernelCensus

namespace Shell

/-- The path of a location. -/
def pathOf (location : List EntryName) : Octets :=
  '/' :: Octets.join ['/'] (location.map Octets.ofBytes)

/-- The slashes that a path starts with, up to two, and its steps; a slash at its end is left out.
-/
def rootAndSteps (path : Octets) : Octets × List Octets :=
  let slashes := (path.takeWhile (· = '/')).take 2
  let steps := Octets.split '/' (path.drop slashes.length)
  (slashes, if steps.getLast? = some [] then steps.dropLast else steps)

/-- Steps after one more, where a step up takes the last one away. -/
def takeStep (steps : List Octets) (step : Octets) : List Octets :=
  match step with
  | [] => steps
  | ['.'] => steps
  | ['.', '.'] => steps.dropLast
  | step => steps ++ [step]

/-- The path of a directory that is reached from another one.  Two slashes at the front are kept,
but not three, and the path of the other directory is kept as it is. -/
def placeAfter (place path : Octets) : Octets :=
  let slashes := (path.takeWhile (· = '/')).length
  let (root, steps) :=
    if slashes = 0 then rootAndSteps place
    else (if slashes = 2 then ['/', '/'] else ['/'], [])
  root ++ Octets.join ['/'] ((Octets.split '/' path).foldl takeStep steps)

/-- Gives a variable a value and exports it. -/
def assignExported (name value : Octets) : Run Unit := do
  assign name value
  modify fun state => state.putVariable name { state.variable name with exported := true }

/-- The location of the directory that a path leads to. -/
def directoryAt (path : Octets) : Run (Option (List EntryName)) := do
  match (← view) path with
  | .ok (location, .dir _) => pure (some location)
  | _ => pure none

/-- Goes to the directory that a path leads to, along the path as it was reached or not; says
whether that was possible. -/
def goTo (physical : Bool) (path : Octets) : Run Bool := do
  let old := (← get).place
  let place := placeAfter old path
  match ← directoryAt (if physical then path else place) with
  | none => pure false
  | some location =>
    modify fun state => { state with here := location }
    assignExported "OLDPWD".toList old
    let place := if physical then pathOf location else place
    modify fun state => { state with place }
    assignExported "PWD".toList place
    modify fun state =>
      { state with known := state.known.map fun known => { known with stale := true } }
    pure true

/-- Whether a path is looked for in other directories than the working one: it does not say where it
starts. -/
def isLookedFor (path : Octets) : Bool :=
  path.head? ≠ some '/' && !([['.'], ['.', '.']] : List Octets).contains (path.takeWhile (· ≠ '/'))

/-- The first directory that a path leads to from one of some directories, and whether that is
another one than the working directory. -/
def searchPlace (path : Octets) : List Octets → Run (Option (Octets × Bool))
  | [] => pure none
  | front :: fronts => do
    let found := if front.isEmpty then path else front ++ ['/'] ++ path
    if (← directoryAt found).isSome then pure (some (found, !front.isEmpty))
    else searchPlace path fronts

/-- Changes the working directory. -/
def changePlace (arguments : List Octets) : Run Nat := do
  let (options, operands) ← takeOptions "LP" "" arguments
  let physical := (options.getLast?.map Prod.fst) = some 'P'
  let state ← get
  let goesBack := operands.head? = some ['-']
  let named :=
    match operands with
    | [] => (state.value? "HOME".toList).getD []
    | goal :: _ => if goesBack then (state.value? "OLDPWD".toList).getD [] else goal
  let goal : Octets := if named.isEmpty then ['.'] else named
  let fronts :=
    match state.value? "CDPATH".toList with
    | some list => if isLookedFor named then Octets.split ':' list else []
    | none => []
  let (path, shows) := (← searchPlace goal fronts).getD (goal, false)
  if ← goTo physical path then
    if goesBack || shows then answer ((← get).place ++ ['\n']) else pure 0
  else fail ("can't cd to ".toList ++ goal)

/-- Prints the working directory. -/
def printPlace (arguments : List Octets) : Run Nat := do
  let (options, _) ← takeOptions "LP" "" arguments
  let state ← get
  let physical := (options.getLast?.map Prod.fst) = some 'P'
  answer ((if physical then pathOf state.here else state.place) ++ ['\n'])

end Shell

end KernelCensus
