/-
# Queries

A query asks about the kernels of one image, or about the build host.  It is answered from what
can be read outside, and answering it changes nothing there.
-/
import KernelCensus.Host.Release
import KernelCensus.ModuleTree

namespace KernelCensus

/-- What queries read: directories, and the answer of the build host when asked its release. -/
structure Outside where
  directories : Directories
  release : Except QueryError String

/-- A question; all but the last are about the image at a root. -/
inductive Query
  | modulesPath (root : Path)
  | names (root : Path)
  | kernels (root : Path)
  | versions (root : Path)
  | oldest (root : Path)
  | oldestVersion (root : Path)
  | checkPresent (root : Path)
  | hostVersion
  deriving DecidableEq, Repr

/-- A successful answer. -/
inductive Answer
  | path (path : Path)
  | names (names : List String)
  | kernels (kernels : List Kernel)
  | versions (versions : List Version)
  | kernel (kernel : Kernel)
  | version (version : Version)
  | present
  deriving DecidableEq, Repr

/-- Answers a query about images that keep their kernels in the given module tree. -/
def Query.answer (tree : ModuleTree) (outside : Outside) : Query → Traced QueryError Answer
  | modulesPath root => pure (.path (tree.path root))
  | names root => do
    let found ← tree.names outside.directories root
    pure (.names found)
  | kernels root => do
    let found ← tree.kernels outside.directories root
    pure (.kernels found)
  | versions root => do
    let found ← tree.versions outside.directories root
    pure (.versions found)
  | oldest root => do
    let found ← tree.oldest outside.directories root
    pure (.kernel found)
  | oldestVersion root => do
    let found ← tree.oldestVersion outside.directories root
    pure (.version found)
  | checkPresent root => do
    tree.checkPresent outside.directories root
    pure .present
  | hostVersion => do
    let found ← KernelCensus.hostVersion outside.release
    pure (.version found)

end KernelCensus
