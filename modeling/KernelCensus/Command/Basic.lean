/-
# Commands

A command is spelled by words, asks one query, and has its answer printed as lines.
-/
import KernelCensus.Query
import KernelCensus.Settings.Basic

namespace KernelCensus

/-- What lies outside of commands: directories, programs, the bytes of files, and a reader of
settings documents. -/
structure Surroundings where
  directories : Directories
  programs : Programs
  read : Path → Except IoError (List UInt8)
  reader : Settings.Reader

/-- What queries read in some surroundings, with the release command that settings name. -/
def Surroundings.outside (surroundings : Surroundings) (settings : Settings) : Outside :=
  ⟨surroundings.directories, surroundings.programs.release settings.hostReleaseCommand⟩

/-- A command; all but the last are about the image at a root. -/
inductive Command
  | list (root : Path)
  | versions (root : Path)
  | oldest (root : Path)
  | check (root : Path)
  | host
  deriving DecidableEq, Repr

namespace Command

/-- The command that words spell. -/
def ofWords? : List String → Option Command
  | ["list", root] => some (.list ⟨root⟩)
  | ["versions", root] => some (.versions ⟨root⟩)
  | ["oldest", root] => some (.oldest ⟨root⟩)
  | ["check", root] => some (.check ⟨root⟩)
  | ["host"] => some .host
  | _ => none

/-! ## Output -/

/-- A text as a line. -/
def line (text : String) : String :=
  text ++ "\n"

/-- The line of a kernel: its version, a tab and its name. -/
def kernelLine (kernel : Kernel) : String :=
  line (kernel.version.text ++ "\t" ++ kernel.name)

/-! ## The host -/

/-- The release command that running the command of some words starts. -/
def releaseCommand? (settings : Settings) (words : List String) : Option (List String) :=
  if ofWords? words = some .host then some settings.hostReleaseCommand else none

end Command

end KernelCensus
