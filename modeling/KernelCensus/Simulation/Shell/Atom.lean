/-
# Expanded words

An expanded word is a list of atoms: characters, each with where it came from, the places where
quotes start and end, and the borders between parameters.  As a pattern, it keeps what is quoted in
it from meaning anything.
-/
import KernelCensus.Simulation.Shell.Pattern

namespace KernelCensus

namespace Shell

/-! ## Atoms -/

/-- Where a character of an expanded word came from: from the word itself, unquoted or quoted, or
from something that was put in unquoted. -/
inductive Origin
  | literal
  | quoted
  | result
  deriving DecidableEq, Repr

/-- A part of an expanded word.  A mark stands where quotes start or end, and says that there is a
field even if it is empty.  A border stands between parameters; a soft one acts like a blank. -/
inductive Atom
  | char (c : Char) (origin : Origin)
  | mark
  | border (soft : Bool)
  deriving DecidableEq, Repr

/-- The character of an atom. -/
def Atom.char? : Atom → Option Char
  | char c _ => some c
  | _ => none

/-- The text of atoms. -/
def textOf (atoms : List Atom) : Octets :=
  atoms.filterMap Atom.char?

/-- The characters of a text, all from one origin. -/
def atomsOf (origin : Origin) (text : Octets) : List Atom :=
  text.map fun c => .char c origin

/-! ## Quoting -/

/-- A character that may have a meaning in a pattern or in a path. -/
def mayMean (c : Char) : Bool :=
  "\\!*?[=~:/-]".toList.contains c

/-- The mark before a quoted character. -/
def quotedMark : Char := '\x81'

/-- The mark where quotes start and where they end. -/
def quotesMark : Char := '\x88'

/-- Whether a character is a mark, or one of those between them that are used like marks. -/
def isMark (c : Char) : Bool :=
  quotedMark ≤ c && c ≤ quotesMark

/-- Whether a mark is kept before a character. -/
def needsMark (quoted : Bool) (c : Char) : Bool :=
  (quoted && mayMean c) || isMark c

/-- Whether an atom is a character as it stands, with no mark before it. -/
def Atom.isPlain : Atom → Bool
  | char c origin => origin != .quoted && !isMark c
  | mark => false
  | border _ => true

/-- The pattern of atoms from the first mark on: a backslash takes the meaning of a marked character
away, and so does one that was there before (`isOpen`), unless there are quotes between them.
Outside quotes there is a mark before each quoted character. -/
def markedPattern (isOpen quotes : Bool) : List Atom → Octets
  | [] => []
  | .mark :: atoms => markedPattern false (!quotes) atoms
  | .border _ :: atoms => markedPattern isOpen quotes atoms
  | .char c origin :: atoms =>
    let quoted := origin == .quoted
    if c = '\\' && !quoted then c :: markedPattern true quotes atoms
    else
      let marked := needsMark quoted c || (quoted && !quotes)
      let front := if marked && !isOpen then ['\\'] else []
      front ++ c :: markedPattern false quotes atoms

/-- The pattern of atoms.  It starts with what stands before the first mark as it is, and a
backslash there has no effect on what comes after that. -/
def patternOf (atoms : List Atom) : Octets :=
  let (front, back) := atoms.span Atom.isPlain
  textOf front ++ markedPattern false false back

/-- The glyphs of the pattern of atoms. -/
def glyphsOf (atoms : List Atom) : List Glyph :=
  glyphs (patternOf atoms)

end Shell

end KernelCensus
