/-
# Scripts of the shell

A script is a list of commands.  A simple command has assignments, words and redirections; other
commands are built of commands.  A word is made of characters, each quoted or not, and of
substitutions, which are replaced when the word is expanded.
-/
import KernelCensus.Simulation.Text.Octets

namespace KernelCensus

namespace Shell

/-- What becomes of an unset parameter, or of a set one. -/
inductive Fallback
  | default
  | assign
  | complain
  | alternative
  deriving DecidableEq, Repr

/-- Which part of a value is cut off. -/
inductive Cut
  | shortestFront
  | longestFront
  | shortestBack
  | longestBack
  deriving DecidableEq, Repr

/-- How a redirection opens its file; `clobber` is `write` even where files are protected. -/
inductive Opening
  | read
  | write
  | clobber
  | append
  | both
  deriving DecidableEq, Repr

mutual

/-- A part of a word.  Quotes leave `quotes` where they start and where they end, so that there is a
word even when nothing is between them. -/
inductive Part
  | char (c : Char) (quoted : Bool)
  | quotes
  | parameter (name : Octets) (use : Use) (quoted : Bool)
  | output (script : List Command) (quoted : Bool)
  | arithmetic (expression : List Part) (quoted : Bool)
  /-- The end of what the word stands for. -/
  | stop

/-- What a parameter is used for; `colon` says that an empty one counts as unset. -/
inductive Use
  | value
  | length
  | fallback (kind : Fallback) (colon : Bool) (word : List Part)
  | cut (cut : Cut) (pattern : List Part)
  | bad

/-- A redirection of a descriptor: to a file, to another descriptor, or to the text of a number
that stands further down in the script. -/
inductive Redirect
  | file (descriptor : Nat) (opening : Opening) (target : List Part)
  | copy (descriptor : Nat) (target : List Part)
  | text (descriptor : Nat) (number : Nat)

/-- A command; the line is where it starts. -/
inductive Command
  | simple (line : Nat) (assignments : List (Octets × List Part)) (words : List (List Part))
      (redirects : List Redirect)
  | redirected (line : Nat) (body : Command) (redirects : List Redirect)
  | negation (body : Command)
  | pipeline (stages : List Command)
  | background (line : Nat) (body : Command)
  | conjunction (first second : Command)
  | disjunction (first second : Command)
  | sequence (first second : Command)
  | subshell (line : Nat) (body : Command) (redirects : List Redirect)
  | branch (condition yes : Command) (no : Option Command)
  | loop (whileTrue : Bool) (condition body : Command)
  | each (line : Nat) (name : Octets) (words : Option (List (List Part))) (body : Command)
  | choice (line : Nat) (subject : List Part) (cases : List (List (List Part) × Option Command))
  | definition (name : Octets) (body : Command)

end

/-- A word: its parts. -/
abbrev Word := List Part

instance : Inhabited Part := ⟨.quotes⟩

instance : Inhabited Command := ⟨.simple 0 [] [] []⟩

/-- A character that a name may start with. -/
def isNameStart (c : Char) : Bool :=
  c.isAlpha || c == '_'

/-- A character that a name may hold. -/
def isNameChar (c : Char) : Bool :=
  c.isAlphanum || c == '_'

/-- Whether a text is a name of a variable. -/
def isName : Octets → Bool
  | [] => false
  | c :: cs => isNameStart c && cs.all isNameChar

end Shell

end KernelCensus
