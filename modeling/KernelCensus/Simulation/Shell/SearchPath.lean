/-
# The search path

A name without a slash is looked for in the places of the search path.  Most of them are directories
of programs.  One may be a directory of functions, where a file defines the function of its name;
and one may stand for those builtins that are looked for in turn.
-/
import KernelCensus.Simulation.Shell.Builtin.Basic

namespace KernelCensus

namespace Shell

/-! ## Places -/

/-- What a place of the search path holds. -/
inductive Holding
  | programs
  | functions
  | builtins
  deriving DecidableEq, Repr

/-- A place of the search path. -/
structure SearchPlace where
  directory : Octets
  holding : Holding := .programs

/-- What a text at the front says that a place holds, and the text after that. -/
def holding? (text : Octets) : Option (Holding × Octets) :=
  let after (word : String) (holding : Holding) : Option (Holding × Octets) :=
    if word.toList.isPrefixOf text then some (holding, text.drop word.length) else none
  (after "builtin" .builtins).or (after "func" .functions)

/-- The place that an entry of the search path stands for.  A percent sign before or after the
directory says what the place holds. -/
def searchPlaceOf (entry : Octets) : SearchPlace :=
  let directory := entry.takeWhile (· ≠ '%')
  match (holding? (entry.drop (directory.length + 1))) with
  | none => { directory := entry }
  | some (holding, rest) =>
    if !directory.isEmpty then { directory, holding }
    else { directory := if rest.head? = some '%' then rest.tail else rest, holding }

/-- The places in a list of directories. -/
def placesIn (list : Octets) : List SearchPlace :=
  (Octets.split ':' list).map searchPlaceOf

/-- The places of the search path: the working directory where nothing is said about them. -/
def State.searchPath (state : State) : List SearchPlace :=
  placesIn ((state.value? pathVariable).getD [])

/-- Whether some builtins are looked for after the first place of the search path. -/
def State.builtinsLater (state : State) : Bool :=
  match state.value? pathVariable with
  | some list =>
    let marks := (Octets.split ':' list).map ("%builtin".toList.isPrefixOf ·)
    marks.head? = some false && marks.contains true
  | none => false

/-- The directories in which programs are usually looked for. -/
def standardPath : Octets :=
  "/usr/local/sbin:/usr/local/bin:/usr/sbin:/usr/bin:/sbin:/bin".toList

/-- The path of a name in a directory; an empty directory is the working one. -/
def inDirectory (directory name : Octets) : Octets :=
  if directory.isEmpty then name else directory ++ ['/'] ++ name

/-- The path of a name in a place. -/
def SearchPlace.path (place : SearchPlace) (name : Octets) : Octets :=
  inDirectory place.directory name

/-- The paths at which a name may be a program, from one of some places on. -/
def programPaths (places : List SearchPlace) (name : Octets) (first : Nat) : List Octets :=
  ((places.drop first).filter (·.holding = .programs)).map (·.path name)

/-! ## Programs -/

/-- Why no program is started, in words, and the exit code for that. -/
structure Missing where
  words : String
  code : Nat

/-- Nothing is there. -/
def Missing.notFound : Missing := ⟨"not found", 127⟩

/-- What is there is no program. -/
def Missing.denied : Missing := ⟨"Permission denied", 126⟩

/-- What is in the way of a path, unless nothing is there. -/
def missingFor? (error : IoError) : Option Missing :=
  if error.kind = .notFound || error.kind = .notADirectory then none
  else some ⟨error.words, 127⟩

/-- The program at a path; unless there is one, what is in the way if something is there. -/
def programAt (look : World.Look) (path : Octets) : Except (Option Missing) Program :=
  match look path with
  | .ok (_, .executable program) => .ok program
  | .ok _ => .error (some .denied)
  | .error error => .error (missingFor? error)

/-- The first program among paths, and its path; what is in the way of the last one of them that
leads to something is in the way of all. -/
def firstProgram (look : World.Look) : Missing → List Octets →
    Except Missing (Octets × Program)
  | missing, [] => .error missing
  | missing, path :: paths =>
    match programAt look path with
    | .ok program => .ok (path, program)
    | .error other => firstProgram look (other.getD missing) paths

/-! ## Searching -/

/-- Whether a path leads to a file. -/
def isFile (look : World.Look) (path : Octets) : Bool :=
  match look path with
  | .ok (_, .file _) => true
  | .ok (_, .executable _) => true
  | .ok (_, .record _ _) => true
  | _ => false

/-- Whether a path leads to what a place holds. -/
def Holding.isAt (holding : Holding) (look : World.Look) (path : Octets) : Bool :=
  match holding with
  | .programs => (programAt look path).toOption.isSome
  | .functions => isFile look path
  | .builtins => false

/-- What a search comes to: builtins that are looked for in a place, or a file there; or what is in
the way of all of them. -/
inductive Found
  | builtins (place : Nat)
  | file (place : Nat)
  | nothing (missing : Missing)

/-- Searches places for a name, which may be that of a builtin, and of a function.  In a directory
with a full path that comes before where the name was found the last time, or that is the one where
it was found, nothing else is expected than then. -/
def search (look : World.Look) (name : Octets) (isBuiltin functions : Bool) (last : Option Nat) :
    Missing → Nat → List SearchPlace → Found
  | missing, _, [] => .nothing missing
  | missing, number, place :: places =>
    let further (missing : Missing) : Found :=
      search look name isBuiltin functions last missing (number + 1) places
    if place.holding = .builtins then
      if isBuiltin then .builtins number else further missing
    else if place.holding = .functions && !functions then further missing
    else
      let path := place.path name
      let unchanged := path.head? = some '/' && last.any (number ≤ ·)
      if unchanged then
        if last = some number then .file number else further missing
      else if place.holding.isAt look path then .file number
      else
        match look path with
        | .ok _ => further { Missing.denied with code := 127 }
        | .error error => further ((missingFor? error).getD missing)

end Shell

end KernelCensus
