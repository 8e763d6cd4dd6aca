/-
# Machines

A machine is a file tree and a working directory in it.  Its directories are listed and probed by
the paths that lead to them.
-/
import KernelCensus.Machine.Walk
import KernelCensus.ModuleTree

namespace KernelCensus

/-- A file tree, and the location of the working directory. -/
structure Machine (α : Type) where
  root : Node α
  here : List EntryName

namespace Machine

variable {α : Type}

/-! ## Nodes -/

/-- The node that a path leads to, links followed. -/
def nodeAt (machine : Machine α) (path : List UInt8) : Except IoError (Node α) := do
  let location ← Walk.locate machine.root machine.here path
  match machine.root.at? location with
  | some node => .ok node
  | none => .error .noEntry

/-- The node that the text of a path leads to. -/
def node (machine : Machine α) (path : Path) : Except IoError (Node α) :=
  machine.nodeAt (Utf8.encode path.text)

/-! ## Directories -/

/-- The name of an entry as text; a name that is not text is refused. -/
def entryText (directory : Path) (name : EntryName) : Except IoError String :=
  match Utf8.decode name with
  | .ok text => .ok text
  | .error _ =>
    let shown := directory.entry (Utf8.decodeLossy name)
    .error { kind := .invalidData, message := s!"non UTF-8 entry name: {shown.text}" }

/-- The names of entries in the order of their bytes. -/
def sortedNames (entries : List (EntryName × Node α)) : List EntryName :=
  (entries.map Prod.fst).mergeSort fun a b => decide (a ≤ b)

/-- The names of the entries of a directory, in the order of their bytes. -/
def list (machine : Machine α) (directory : Path) : Except IoError (List String) := do
  match ← machine.node directory with
  | .dir entries => (sortedNames entries).mapM (entryText directory)
  | _ =>
    .error { kind := .invalidInput, message := s!"not a directory: {directory.text}" }

/-- Whether a directory has no entries. -/
def isEmpty (machine : Machine α) (directory : Path) : Except IoError Bool := do
  match ← machine.node directory with
  | .dir entries => .ok entries.isEmpty
  | _ => .error .notADirectory

/-- The directories of a machine. -/
def directories (machine : Machine α) : Directories :=
  ⟨machine.list, machine.isEmpty⟩

end Machine

end KernelCensus
