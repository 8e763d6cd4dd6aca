/-
# The settings document

A document sets each of the two keys at most once: `modules_dir` to a string, and
`host_release_command` to an array of strings.  How a text spells a document is not said here: it is
left to a reader.
-/
import KernelCensus.Cause

namespace KernelCensus

namespace Settings

/-- What a document sets. -/
structure Document where
  modulesDir : Option String := none
  hostReleaseCommand : Option (List String) := none
  deriving DecidableEq, Repr, Inhabited

/-- A reader of documents: the document that a text spells, or the report of what is wrong with
the text. -/
abbrev Reader := String → Except Cause Document

end Settings

end KernelCensus
