/-
# The module tree of an image

A kernel package leaves one directory per release under the module tree of an image's root.
The census lists those directories in the order in which the tree is listed and skips the empty
ones, which a removed package may leave behind.  Nothing is remembered between two queries.
-/
import KernelCensus.Traced
import KernelCensus.Version.Ranking
import KernelCensus.Version.Release

namespace KernelCensus

/-! ## What is read -/

/-- Access to directories: the names of the entries of one, and whether one has no entries. -/
structure Directories where
  list : Path → Except IoError (List String)
  isEmpty : Path → Except IoError Bool

/-- Where an image keeps its kernels, relative to the image's root. -/
structure ModuleTree where
  dir : Path := ⟨"lib/modules"⟩
  deriving DecidableEq, Repr, Inhabited

/-- An installed kernel: the name of its directory and the version parsed from that name. -/
structure Kernel where
  name : String
  version : Version
  deriving DecidableEq, Repr

/-- The version of a directory name, or the error that names it. -/
def Version.ofName (name : String) : Except QueryError Version :=
  match Version.ofRelease? name with
  | some version => .ok version
  | none => .error (.badRelease name)

/-- The kernel of a directory name, or the error that names it. -/
def Kernel.ofName (name : String) : Except QueryError Kernel :=
  (Version.ofName name).map (Kernel.mk name)

namespace ModuleTree

/-- The module tree at a directory; one that starts at the root is taken from the root of the
image. -/
def ofDir (dir : Path) : ModuleTree :=
  ⟨dir.withoutRoot⟩

/-- The module tree of the image at the given root. -/
def path (tree : ModuleTree) (root : Path) : Path :=
  root.join tree.dir

/-! ## Scanning -/

/-- Probes the named entries in order and keeps those that are not empty; the first failed probe
ends the scan. -/
def probeEntries (dirs : Directories) (parent : Path) :
    List String → Traced QueryError (List String)
  | [] => pure []
  | name :: rest => do
    let directory := parent.entry name
    let empty ← Traced.called (.isEmpty directory)
      ((dirs.isEmpty directory).mapError (.io .checkEmpty directory))
    if empty then
      Traced.logged (.skippedEmpty directory)
      probeEntries dirs parent rest
    else
      Traced.logged (.foundKernel directory)
      let kept ← probeEntries dirs parent rest
      pure (name :: kept)

/-- The names of the non-empty entries of the module tree, in listing order. -/
def names (tree : ModuleTree) (dirs : Directories) (root : Path) :
    Traced QueryError (List String) := do
  let parent := tree.path root
  let listed ← Traced.called (.list parent) ((dirs.list parent).mapError (.io .enumerate parent))
  probeEntries dirs parent listed

/-! ## Reading versions -/

/-- The installed kernels; the first name that is no release fails. -/
def kernels (tree : ModuleTree) (dirs : Directories) (root : Path) :
    Traced QueryError (List Kernel) := do
  let found ← tree.names dirs root
  Traced.ofExcept (found.mapM Kernel.ofName)

/-- The versions of the installed kernels; the first name that is no release fails. -/
def versions (tree : ModuleTree) (dirs : Directories) (root : Path) :
    Traced QueryError (List Version) := do
  let found ← tree.names dirs root
  Traced.ofExcept (found.mapM Version.ofName)

/-! ## Resolving -/

/-- The choice made, or the error of a module tree that offers none. -/
def chosen {α : Type} (tree : ModuleTree) (root : Path) : Option α → Except QueryError α
  | some a => .ok a
  | none => .error (.emptyInventory (tree.path root))

/-- The oldest installed kernel; a successful choice is logged. -/
def oldest (tree : ModuleTree) (dirs : Directories) (root : Path) :
    Traced QueryError Kernel := do
  let found ← tree.kernels dirs root
  let kernel ← Traced.ofExcept (tree.chosen root (oldestBy Kernel.version found))
  Traced.logged (.oldestKernel kernel.name kernel.version)
  pure kernel

/-- The version of the oldest installed kernel; the choice is not logged. -/
def oldestVersion (tree : ModuleTree) (dirs : Directories) (root : Path) :
    Traced QueryError Version := do
  let found ← tree.versions dirs root
  Traced.ofExcept (tree.chosen root (oldestBy id found))

/-! ## Checking for presence -/

/-- Succeeds when at least one kernel directory is not empty; its name need not parse. -/
def checkPresent (tree : ModuleTree) (dirs : Directories) (root : Path) :
    Traced QueryError Unit := do
  let found ← tree.names dirs root
  if found.isEmpty then
    Traced.ofExcept (.error .noKernelInstalled)
  else
    Traced.logged (.kernelsPresent found.length (tree.path root))

end ModuleTree

end KernelCensus
