/-
# Simulated machines

A machine with a simulated file tree lets files be read and programs be found; edits change its
tree.
-/
import KernelCensus.Machine.Basic
import KernelCensus.Simulation.World

namespace KernelCensus

namespace Machine

/-! ## Reading -/

/-- The bytes of a file. -/
def read (machine : Machine Leaf) (file : Path) : Except IoError (List UInt8) := do
  match ← machine.node file with
  | .file content => .ok content.toBytes
  | .device _ => .ok []
  | .pipe _ => .ok []
  | .record texts mark => .ok (Node.recorded texts mark).toBytes
  | .executable _ => .ok World.executableContent.toBytes
  | .link _ => .error .tooManyLinks
  | .dir _ => .error .isADirectory

/-- The directories in which programs are looked for. -/
def searchPath : List Path :=
  [⟨"/host"⟩, ⟨"/usr/bin"⟩, ⟨"/bin"⟩]

/-- The program at a path. -/
def programAt? (machine : Machine Leaf) (path : Path) : Option Program :=
  match machine.node path with
  | .ok (.executable program) => some program
  | _ => none

/-- The path of the first program of the given name: the path itself when it has several
components, and otherwise the entry of that name in a directory of the search path. -/
def findProgram (machine : Machine Leaf) (name : String) : Except Cause Path :=
  let candidates :=
    if (Path.mk name).components.length > 1 then [Path.mk name]
    else searchPath.map fun directory => directory.entry name
  match candidates.find? fun path => (machine.programAt? path).isSome with
  | some path => .ok path
  | none => .error { message := "cannot find binary path" }

/-! ## Editing -/

/-- A change of the file tree; paths and contents are bytes. -/
inductive Edit
  | makeDir (path : List UInt8)
  | writeFile (path content : List UInt8)
  | makeLink (path target : List UInt8)
  | remove (path : List UInt8)
  deriving DecidableEq, Repr

/-- The machine with a directory at a path, made with all that lead to it. -/
def makeDir (machine : Machine Leaf) (path : List UInt8) : Except IoError (Machine Leaf) := do
  Walk.checkPath path
  let (root, location) ← Walk.makeAlong machine.root Walk.maxLinks (Walk.start machine.here path)
    (Walk.steps path)
  match root.at? location with
  | some (.dir _) => .ok { machine with root }
  | _ => .error .alreadyThere

/-- The machine with the parent directory of a path made, the location of that directory, and the
name of the path's last step. -/
def makeParent (machine : Machine Leaf) (path : List UInt8) :
    Except IoError (Machine Leaf × List EntryName × EntryName) := do
  Walk.checkPath path
  let steps := Walk.steps path
  match steps.getLast? with
  | none => .error .isADirectory
  | some name =>
    let (root, location) ← Walk.makeAlong machine.root Walk.maxLinks
      (Walk.start machine.here path) steps.dropLast
    .ok ({ machine with root }, location, name)

/-- The machine with a file of the given bytes at a path.  A link there is followed, even to where
nothing is yet, as long as that is in a directory.  What is written to a device is gone, if there is
room for it. -/
def writeFile (machine : Machine Leaf) (path content : List UInt8) :
    Except IoError (Machine Leaf) := do
  let (machine, parent, name) ← machine.makeParent path
  let (_, location) ← Walk.makeAlong machine.root Walk.maxLinks parent [name]
  match machine.root.at? location, machine.root.at? location.dropLast with
  | some (.dir _), _ => .error .isADirectory
  | some (.device device), _ =>
    if device = .full && !content.isEmpty then .error .noSpace else .ok machine
  | _, some (.dir _) =>
    .ok { machine with root := machine.root.putAt (.file (Octets.ofBytes content)) location }
  | _, _ => .error .noEntry

/-- The machine with a symbolic link at a path where nothing is yet.  A path whose last step stays
or goes up names a directory that is there already. -/
def makeLink (machine : Machine Leaf) (path target : List UInt8) :
    Except IoError (Machine Leaf) := do
  let (machine, parent, name) ← machine.makeParent path
  if name = Walk.dot ∨ name = Walk.dotDot then .error .alreadyThere
  else if Walk.maxName < name.length then .error .nameTooLong
  else
    match machine.root.at? (parent ++ [name]) with
    | some _ => .error .alreadyThere
    | none => .ok { machine with root := machine.root.putAt (.link target) (parent ++ [name]) }

/-- The machine without what is at a path; a link there is not followed. -/
def remove (machine : Machine Leaf) (path : List UInt8) : Except IoError (Machine Leaf) := do
  Walk.checkPath path
  let steps := Walk.steps path
  match steps.getLast? with
  | none => .error .isADirectory
  | some name =>
    let parent ← Walk.along machine.root Walk.maxLinks (Walk.start machine.here path)
      steps.dropLast
    match machine.root.at? (parent ++ [name]) with
    | some _ => .ok { machine with root := machine.root.eraseAt (parent ++ [name]) }
    | none => .error .noEntry

/-- The machine after an edit. -/
def edit (machine : Machine Leaf) : Edit → Except IoError (Machine Leaf)
  | .makeDir path => machine.makeDir path
  | .writeFile path content => machine.writeFile path content
  | .makeLink path target => machine.makeLink path target
  | .remove path => machine.remove path

end Machine

end KernelCensus
