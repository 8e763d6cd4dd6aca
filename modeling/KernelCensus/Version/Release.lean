/-
# Kernel releases

A release, as the running kernel reports it or as a module directory is named, is a numeric run
followed by a tag: `6.11.6-200.fc40.x86_64`.  The run is as long as it can be, and the tag is
checked and then dropped.

* The run is one or more groups of decimal digits, of whatever script, joined by single dots.
* The tag is empty, or starts with `.` or `-` and goes on in ASCII letters, digits, `_`, `.`
  and `-`.
* Each group must be the decimal form of an unsigned 64-bit number in ASCII digits; leading zeros
  are allowed.
-/
import KernelCensus.Text.Decimal
import KernelCensus.Version.Basic

namespace KernelCensus

namespace Release

/-! ## The numeric run -/

/-- Whether the text goes on with a decimal digit. -/
def startsWithDecimal : List Char → Bool
  | [] => false
  | c :: _ => isDecimal c

/-- Splits off the longest run of digit groups joined by dots; a dot belongs to the run only
when a digit follows it. -/
def takeRun : List Char → List (List Char) × List Char
  | [] => ([[]], [])
  | c :: cs =>
    if isDecimal c then
      match takeRun cs with
      | ([], rest) => ([[c]], rest)
      | (group :: groups, rest) => ((c :: group) :: groups, rest)
    else if c == '.' && startsWithDecimal cs then
      ([] :: (takeRun cs).1, (takeRun cs).2)
    else
      ([[]], c :: cs)

/-! ## The tag -/

/-- A character that may stand inside a tag. -/
def isTagChar (c : Char) : Bool :=
  c.isAlphanum || c == '_' || c == '.' || c == '-'

/-- Whether what follows the run is empty or a well-formed tag. -/
def isTag : List Char → Bool
  | [] => true
  | c :: cs => (c == '.' || c == '-') && cs.all isTagChar

/-! ## Segments -/

/-- The number that a group of ASCII digits stands for, when it fits into 64 bits. -/
def segment? (group : List Char) : Option UInt64 :=
  let value := Nat.ofDigitChars 10 group 0
  if fits : (!group.isEmpty && group.all Char.isDigit) ∧ value < UInt64.size then
    some (UInt64.ofNatLT value fits.2)
  else none

end Release

/-- The version at the front of a release, or nothing when the text is not a release. -/
def Version.ofRelease? (release : String) : Option Version :=
  let (groups, tag) := Release.takeRun release.toList
  if Release.isTag tag then (groups.mapM Release.segment?).map Version.mk else none

end KernelCensus
