/-
# Reading the settings document

A stand-in for a reader of TOML documents, which knows as much of the format as the two keys of the
settings may need.  Each key stands on a line of its own.  Tokens are read one by one; where a token
may stand depends only on the place that the ones before it have led to.  Any other key, value or
order of tokens is refused.
-/
import KernelCensus.Settings.Document
import KernelCensus.Simulation.Toml.Token

namespace KernelCensus

namespace Settings

namespace Document

/-! ## Keys -/

/-- The keys that a document may set. -/
inductive Key
  | modulesDir
  | hostReleaseCommand
  deriving DecidableEq, Repr

/-- The key of a name. -/
def Key.ofName? (name : String) : Option Key :=
  if name = "modules_dir" then some .modulesDir
  else if name = "host_release_command" then some .hostReleaseCommand
  else none

/-- Sets the directory, unless it is set. -/
def setModulesDir (document : Document) (dir : String) : Option Document :=
  match document.modulesDir with
  | none => some { document with modulesDir := some dir }
  | some _ => none

/-- Sets the command, unless it is set. -/
def setHostReleaseCommand (document : Document) (words : List String) : Option Document :=
  match document.hostReleaseCommand with
  | none => some { document with hostReleaseCommand := some words }
  | some _ => none

/-! ## Places -/

/-- A place between two tokens.  In an array the elements before the place are kept in
reverse. -/
inductive Place
  | lineStart
  | afterKey (key : Key)
  | beforeValue (key : Key)
  | beforeElement (elements : List String)
  | afterElement (elements : List String)
  | afterValue
  deriving DecidableEq, Repr

/-- Moves to the place after a key's name. -/
def named (document : Document) (name : String) : Option (Document × Place) :=
  (Key.ofName? name).map fun key => (document, .afterKey key)

/-- Reads one token. -/
def step : Document × Place → Token → Option (Document × Place)
  | (document, .lineStart), .lineEnd => some (document, .lineStart)
  | (document, .lineStart), .word name => document.named name
  | (document, .lineStart), .string name false => document.named name
  | (document, .afterKey key), .equals => some (document, .beforeValue key)
  | (document, .beforeValue .modulesDir), .string dir _ =>
    (document.setModulesDir dir).map (·, .afterValue)
  | (document, .beforeValue .hostReleaseCommand), .opening =>
    some (document, .beforeElement [])
  | (document, .beforeElement elements), .lineEnd => some (document, .beforeElement elements)
  | (document, .beforeElement elements), .string word _ =>
    some (document, .afterElement (word :: elements))
  | (document, .beforeElement elements), .closing =>
    (document.setHostReleaseCommand elements.reverse).map (·, .afterValue)
  | (document, .afterElement elements), .lineEnd => some (document, .afterElement elements)
  | (document, .afterElement elements), .comma => some (document, .beforeElement elements)
  | (document, .afterElement elements), .closing =>
    (document.setHostReleaseCommand elements.reverse).map (·, .afterValue)
  | (document, .afterValue), .lineEnd => some (document, .lineStart)
  | _, _ => none

/-- A document may end at the start of a line or after a value. -/
def Place.mayEnd : Place → Bool
  | lineStart => true
  | afterValue => true
  | _ => false

/-- The document that tokens spell. -/
def ofTokens? (tokens : List Token) : Option Document :=
  match tokens.foldlM step (({} : Document), Place.lineStart) with
  | some (document, place) => if place.mayEnd then some document else none
  | none => none

/-- The document that a text spells, or nothing when the text is refused. -/
def parse? (text : String) : Option Document :=
  (tokens? text).bind ofTokens?

/-- Reads a document; of a text that is refused, only that is reported. -/
def read : Reader := fun text =>
  match parse? text with
  | some document => .ok document
  | none => .error { message := "TOML parse error" }

end Document

end Settings

end KernelCensus
