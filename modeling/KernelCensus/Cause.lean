/-
# Causes

What goes wrong outside is not ours to word: it comes with a text, and perhaps with the texts of
what was behind it.
-/

namespace KernelCensus

/-- What went wrong outside: its text, and the texts of the causes behind it, nearest first. -/
structure Cause where
  message : String
  sources : List String := []
  deriving DecidableEq, Repr

/-- All texts of a cause, its own first. -/
def Cause.chain (cause : Cause) : List String :=
  cause.message :: cause.sources

/-- The kinds of failed input and output. -/
inductive IoKind
  | notFound
  | permissionDenied
  | invalidInput
  | invalidData
  | notADirectory
  | isADirectory
  | filesystemLoop
  | invalidFilename
  | timedOut
  | other
  deriving DecidableEq, Repr

/-- A failed input or output: its kind and what went wrong. -/
structure IoError extends Cause where
  kind : IoKind
  deriving DecidableEq, Repr

end KernelCensus
