/-
# Paths that match patterns

A word that holds a pattern stands for the paths that it matches.  Each part of the word between
slashes is matched with the entries of the directory before it.  An entry whose name starts with
a dot is only matched by a part that starts with one.
-/
import KernelCensus.Simulation.Opening
import KernelCensus.Simulation.Shell.Atom

namespace KernelCensus

namespace Shell

/-! ## Steps -/

/-- The steps of a pattern between slashes, which a backslash does not keep from separating. -/
def patternSteps : Octets → List Octets
  | [] => [[]]
  | '\\' :: '/' :: rest => [] :: patternSteps rest
  | '\\' :: c :: rest => join ['\\', c] (patternSteps rest)
  | '/' :: rest => [] :: patternSteps rest
  | c :: rest => join [c] (patternSteps rest)
where
  join (front : Octets) : List Octets → List Octets
    | [] => [front]
    | step :: steps => (front ++ step) :: steps

/-- Whether a bracket that was opened before a text is closed in it. -/
def closes : Octets → Bool
  | [] => false
  | ['\\'] => false
  | '\\' :: _ :: rest => rest.head? = some ']' || closes rest
  | _ :: rest => rest.head? = some ']' || closes rest

/-- Whether a step holds a pattern. -/
def isActive : Octets → Bool
  | [] => false
  | '\\' :: _ :: rest => isActive rest
  | '[' :: '!' :: rest => closes rest || isActive rest
  | '[' :: rest => closes rest || isActive rest
  | c :: rest => c = '*' || c = '?' || isActive rest

/-- The name that a step stands for which holds no pattern. -/
def plainName : Octets → Octets
  | '\\' :: c :: rest => c :: plainName rest
  | c :: rest => c :: plainName rest
  | [] => []

/-! ## Names -/

/-- Whether something is at a path; a link there is not followed. -/
def isThere (root : FileTree) (here : List EntryName) (path : Octets) : Bool :=
  let bytes := path.toBytes
  let steps := Walk.steps bytes
  match steps.getLast? with
  | none => !path.isEmpty
  | some last =>
    match Walk.along root Walk.maxLinks (Walk.start here bytes) steps.dropLast with
    | .error _ => false
    | .ok parent =>
      match root.at? parent with
      | some (.dir entries) =>
        last = Walk.dot || last = Walk.dotDot || (entries.lookup last).isSome
      | _ => false

/-- Whether a path leads to something. -/
def leads (look : World.Look) (path : Octets) : Bool :=
  (look path).toOption.isSome

/-- The names in the directory that a path ends in; an empty path is the working directory. -/
def namesIn (root : FileTree) (here : List EntryName) (path : Octets) : List Octets :=
  let location :=
    if path.isEmpty then .ok here else Walk.locate root here path.toBytes
  match location.map root.at? with
  | .ok (some (.dir entries)) =>
    ['.'] :: ['.', '.'] :: entries.map fun (name, _) => Octets.ofBytes name
  | _ => []

/-- Whether a name may be matched by a step: one with a leading dot only where the step has one. -/
def isShown (step name : Octets) : Bool :=
  let front := if step.head? = some '\\' then step.tail else step
  name.head? ≠ some '.' || front.head? = some '.'

/-! ## Paths -/

/-- The paths that start with some text and go on with what matches the steps. -/
def pathsFrom (root : FileTree) (here : List EntryName) (front : Octets) :
    List Octets → List Octets
  | [] => []
  | step :: steps =>
    let names :=
      if isActive step then
        let pattern := glyphs step
        (namesIn root here front).filter fun name => isShown step name && isMatch pattern name
      else [plainName step]
    match steps with
    | [] => (names.map (front ++ ·)).filter (isThere root here)
    | _ :: _ => names.flatMap fun name => pathsFrom root here (front ++ name ++ ['/']) steps

/-- Whether a word holds a pattern. -/
def holdsPattern (word : List Atom) : Bool :=
  (patternSteps (patternOf word)).any isActive

/-- The paths that a word matches which holds a pattern, in the order of their bytes. -/
def matchingPaths (root : FileTree) (here : List EntryName) (word : List Atom) : List Octets :=
  (pathsFrom root here [] (patternSteps (patternOf word))).mergeSort Octets.isAtMost

end Shell

end KernelCensus
