/-
# Settings

Settings say where an image keeps its kernels and which command prints the build host's release.
Both have defaults.  A module directory is taken relative to the image and must not lead out of
it; a command must name a program.
-/
import KernelCensus.Failure
import KernelCensus.ModuleTree
import KernelCensus.Settings.Document
import KernelCensus.Text.Blank

namespace KernelCensus

/-- The directory of the module tree, and the words of the release command. -/
structure Settings where
  modulesDir : Path := ⟨"lib/modules"⟩
  hostReleaseCommand : List String := ["uname", "-r"]
  deriving DecidableEq, Repr, Inhabited

namespace Settings

/-- The module tree that settings name. -/
def moduleTree (settings : Settings) : ModuleTree :=
  ModuleTree.ofDir settings.modulesDir

/-- Whether settings amount to the default: the command is the same, and the directory is reached
by the same walk. -/
def isDefault (settings : Settings) : Bool :=
  settings.modulesDir.sameWalk ({} : Settings).modulesDir &&
    settings.hostReleaseCommand == ({} : Settings).hostReleaseCommand

/-! ## Checking -/

/-- The module directory that a text gives: blanks around it and slashes before it are dropped.
What is left must not be empty and must hold no `..` component. -/
def checkModulesDir (raw : String) : Except SettingsError Path :=
  let dir : Path := ⟨String.ofList ((trim raw).toList.dropWhile (· == '/'))⟩
  if dir.text.isEmpty then .error .emptyModulesDir
  else if dir.components.any (fun part => part == .up || part == .root) then
    .error (.escapingModulesDir raw)
  else .ok dir

/-- A command must have a first word that is not blank. -/
def checkHostReleaseCommand : List String → Except SettingsError (List String)
  | [] => .error .noProgram
  | program :: arguments =>
    if (trim program).isEmpty then .error .noProgram else .ok (program :: arguments)

/-- The settings of a document; the directory is checked before the command, and a key that is
not set keeps its default. -/
def ofDocument (document : Document) : Except SettingsError Settings := do
  let modulesDir ← match document.modulesDir with
    | some raw => checkModulesDir raw
    | none => pure ({} : Settings).modulesDir
  let hostReleaseCommand ← match document.hostReleaseCommand with
    | some words => checkHostReleaseCommand words
    | none => pure ({} : Settings).hostReleaseCommand
  pure { modulesDir, hostReleaseCommand }

/-! ## Reading -/

/-- The settings of the document that a text spells to a reader. -/
def ofText (reader : Reader) (text : String) : Except Failure Settings :=
  match reader text with
  | .error report => .error (.of (.document report))
  | .ok document => (ofDocument document).mapError fun error => .of (.settings error)

/-- The text of a file's bytes. -/
def textOfBytes (bytes : List UInt8) : Except IoError String :=
  (Utf8.decode bytes).mapError fun _ =>
    { kind := .invalidData, message := "stream did not contain valid UTF-8" }

/-- The settings in a file, whose bytes are given by its path; each failure says what was done with
which file. -/
def load (reader : Reader) (read : Path → Except IoError (List UInt8)) (file : Path) :
    Except Failure Settings :=
  match read file >>= textOfBytes with
  | .error error => .error ((Failure.of (.io error)).within s!"reading config '{file.text}'")
  | .ok text => (ofText reader text).mapError (Failure.within s!"parsing config '{file.text}'")

end Settings

end KernelCensus
