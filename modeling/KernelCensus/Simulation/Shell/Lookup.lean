/-
# Looking commands up

The first word of a command names a special builtin, a function, another builtin, or a program.
A name with a slash is the path of a program; any other is looked for in the search path, and it is
remembered where it was found.
-/
import KernelCensus.Simulation.Shell.Lines
import KernelCensus.Simulation.Shell.SearchPath

namespace KernelCensus

namespace Shell

/-! ## What is remembered -/

/-- Where a command was found. -/
def State.known? (state : State) (name : Octets) : Option Known :=
  state.known.find? (·.name = name)

/-- Forgets where a command was found. -/
def State.forget (state : State) (name : Octets) : State :=
  { state with known := state.known.filter (·.name ≠ name) }

/-- Remembers where a command was found. -/
def State.remember (state : State) (name : Octets) (place : Nat) : State :=
  let new : Known := { name, place }
  if (state.known? name).isSome then
    { state with known := state.known.map fun old => if old.name = name then new else old }
  else { state with known := state.known ++ [new] }

/-! ## Commands -/

/-- What the first word of a command names.  A program is at the first of some paths that leads to
one. -/
inductive Named
  | function (body : Command)
  | builtin (builtin : Builtin)
  | program (paths : List Octets)
  | nothing (missing : Missing)

/-- What a word names, among the given builtins, as far as that is known before the search path is
looked through; functions may be left out. -/
def State.named? (state : State) (builtin? : Octets → Option Builtin) (functions : Bool)
    (name : Octets) : Option Named :=
  let function := if functions then state.functions.lookup name else none
  match builtin? name, function with
  | some builtin, none =>
    if builtin.isRegular || !state.builtinsLater then some (.builtin builtin) else none
  | some builtin, some body =>
    some (if builtin.isSpecial then .builtin builtin else .function body)
  | none, some body => some (.function body)
  | none, none => none

/-- Runs the file of a function, which has to define it. -/
def loadFunction (evaluator : Evaluator) (name path : Octets) : Run Command := do
  match ← openPath .read path with
  | .ok stream =>
    match ← attempt (withScript stream (evaluator.script false (.stream stream))) with
    | .error (.returned code _) => let _ ← endReturn code
    | result => let _ ← resume result
  | .error _ => pure ()
  match (← get).functions.lookup name with
  | some body => pure body
  | none => fail (name ++ " not defined in ".toList ++ path)

/-- What a name stands for that was found in one of some places. -/
def namedAt (evaluator : Evaluator) (builtin? : Option Builtin) (name : Octets)
    (places : List SearchPlace) (number : Nat) : Run Named := do
  let program := Named.program (programPaths places name number)
  match places[number]?, builtin? with
  | some ⟨_, .builtins⟩, some builtin => pure (.builtin builtin)
  | some ⟨directory, .functions⟩, _ =>
    return .function (← loadFunction evaluator name (inDirectory directory name))
  | _, _ => pure program

/-- What a word names, among the given builtins; functions may be left out, and programs may be
looked for in the standard directories.  What is found in the search path is remembered, unless it
is a function of that name which was left out. -/
def lookUp (evaluator : Evaluator) (builtin? : Octets → Option Builtin)
    (functions standard : Bool) (name : Octets) : Run Named := do
  let state ← get
  let builtin := builtin? name
  match state.named? builtin? functions name with
  | some named => pure named
  | none =>
    let places := if standard then placesIn standardPath else state.searchPath
    let remembers := !standard && (state.functions.lookup name).isNone
    let known := if remembers then state.known? name else none
    if name.contains '/' then pure (.program [name])
    else if let (true, some builtin) := (standard, builtin) then pure (.builtin builtin)
    else if let some { place, stale := false, .. } := known then
      namedAt evaluator builtin name places place
    else
      let last := known.map (·.place)
      match search (← view) name builtin.isSome functions last .notFound 0 places with
      | .nothing missing =>
        if remembers then modify (·.forget name)
        pure (.nothing missing)
      | .builtins place | .file place =>
        let named ← namedAt evaluator builtin name places place
        if remembers then
          match named with
          | .function _ => pure ()
          | _ => modify (·.remember name place)
        pure named

/-- Describes what a word names, in full or only as it could be used; programs that were not
found yet may be looked for in the standard directories. -/
def describe (evaluator : Evaluator) (builtin? : Octets → Option Builtin) (full standard : Bool)
    (name : Octets) : Run Nat := do
  let state ← get
  if full then let _ ← answer name
  let tell (brief : Octets) (long : String) : Run Nat :=
    answer ((if full then ' ' :: long.toList else brief) ++ ['\n'])
  let missing : Run Nat := do
    if full then let _ ← answer ": not found\n".toList
    pure 127
  if keywords.contains (String.ofList name) then tell name "is a shell keyword"
  else if let some text := state.aliases.lookup name then
    tell ("alias ".toList ++ name ++ ['='] ++ quoteWord text)
      ("is an alias for " ++ String.ofList text)
  else
    let known := if standard then none else state.known? name
    let named ←
      match known with
      | some { place, .. } => namedAt evaluator (builtin? name) name state.searchPath place
      | none => lookUp evaluator builtin? true standard name
    match named with
    | .function _ => tell name "is a shell function"
    | .builtin builtin =>
      tell name (if builtin.isSpecial then "is a special shell builtin" else "is a shell builtin")
    | .nothing _ => missing
    | .program paths =>
      let path := paths.headD []
      if name.contains '/' && !leads (← view) name then missing
      else
        let verb := if known.isSome then "is a tracked alias for " else "is "
        tell path (verb ++ String.ofList path)

end Shell

end KernelCensus
