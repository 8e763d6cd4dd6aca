/-
# Failures

A command, or the reading of its settings, fails with contexts around a root.  The contexts say
what was being done, outermost first; the root says what went wrong.
-/
import KernelCensus.Error

namespace KernelCensus

/-- What is wrong with settings that are well formed. -/
inductive SettingsError
  | emptyModulesDir
  /-- The directory, as it was written, would lead out of the image. -/
  | escapingModulesDir (raw : String)
  | noProgram
  deriving DecidableEq, Repr

/-- The error in words. -/
def SettingsError.message : SettingsError → String
  | emptyModulesDir => "modules_dir must not be empty"
  | escapingModulesDir raw =>
    s!"modules_dir contains invalid traversal/root component in '{raw}'"
  | noProgram => "host_release_command must name a program"

/-- The forms in which the program may be called. -/
def usage : String :=
  "Usage:\n" ++
  "  kernel-inventory [-v] [--config <file>] list <rootfs>\n" ++
  "  kernel-inventory [-v] [--config <file>] versions <rootfs>\n" ++
  "  kernel-inventory [-v] [--config <file>] oldest <rootfs>\n" ++
  "  kernel-inventory [-v] [--config <file>] check <rootfs>\n" ++
  "  kernel-inventory [-v] [--config <file>] host"

/-- What a failure comes down to. -/
inductive FailureRoot
  | query (error : QueryError)
  | io (error : IoError)
  /-- A settings text that is no settings document, for the reason that its reader reports. -/
  | document (report : Cause)
  | settings (error : SettingsError)
  /-- A flag whose file is missing. -/
  | noConfigFile
  /-- A command that does not exist. -/
  | noCommand
  deriving DecidableEq, Repr

/-- The texts of a root and of its causes, nearest first. -/
def FailureRoot.chain : FailureRoot → List String
  | query error => error.chain
  | io error => error.chain
  | document report => report.chain
  | settings error => [error.message]
  | noConfigFile => ["--config needs a file\n" ++ usage]
  | noCommand => [usage]

/-- A root with the contexts around it, outermost first. -/
structure Failure where
  contexts : List String
  root : FailureRoot
  deriving DecidableEq, Repr

namespace Failure

/-- The failure of a root alone. -/
def of (root : FailureRoot) : Failure :=
  ⟨[], root⟩

/-- The failure inside one more context. -/
def within (context : String) (failure : Failure) : Failure :=
  { failure with contexts := context :: failure.contexts }

/-- All texts of a failure, outermost first. -/
def chain (failure : Failure) : List String :=
  failure.contexts ++ failure.root.chain

end Failure

end KernelCensus
