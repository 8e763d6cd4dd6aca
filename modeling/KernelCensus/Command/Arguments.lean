/-
# Arguments

The arguments of the program are flags and then a command.  Flags count only before the command;
from its first word on, everything belongs to the command.  A flag that names a settings file
takes the next argument, whatever it looks like, and the last such flag wins.
-/
import KernelCensus.Failure

namespace KernelCensus

/-- The flags, and the words of the command. -/
structure Arguments where
  verbose : Bool := false
  settingsFile : Option Path := none
  command : List String := []
  deriving DecidableEq, Repr, Inhabited

namespace Arguments

/-- The arguments in front of which the flag of verbosity stands. -/
def withVerbose (arguments : Arguments) : Arguments :=
  { arguments with verbose := true }

/-- The arguments in front of which a settings file is named. -/
def withSettingsFile (file : String) (arguments : Arguments) : Arguments :=
  { arguments with settingsFile := arguments.settingsFile.or (some ⟨file⟩) }

/-- Reads the arguments of the program; it fails when the flag of the settings file comes last. -/
def parse : List String → Except Failure Arguments
  | [] => .ok {}
  | ["--config"] => .error (.of .noConfigFile)
  | "--config" :: file :: rest => (parse rest).map (withSettingsFile file)
  | "-v" :: rest => (parse rest).map withVerbose
  | "--verbose" :: rest => (parse rest).map withVerbose
  | words => .ok { command := words }

end Arguments

end KernelCensus
