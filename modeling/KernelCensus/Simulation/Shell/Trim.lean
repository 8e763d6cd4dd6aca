/-
# Cutting parts off

A part that a pattern matches is cut off the front or the back of a text.  Several parameters that
stay apart are cut as one text with zero bytes between them, and a zero byte ends what is matched.
Between quotes that text has a mark before each character that may mean something in a pattern.  If
there are marks in the first parameter, what is matched is a copy of this one without marks, which
is kept after the pattern, while what is cut off is counted in the text of all of them.
-/
import KernelCensus.Simulation.Shell.Fields

namespace KernelCensus

namespace Shell

/-! ## One text -/

/-- What is left of a text after a part that a pattern matches is cut off. -/
def Cut.apply (cut : Cut) (pattern : List Glyph) (text : Octets) : Octets :=
  let front := matchLengths pattern text
  let back := matchLengths pattern.reverse text.reverse
  match cut with
  | shortestFront => text.drop (front.head?.getD 0)
  | longestFront => text.drop (front.getLast?.getD 0)
  | shortestBack => text.take (text.length - back.head?.getD 0)
  | longestBack => text.take (text.length - back.getLast?.getD 0)

/-! ## Marks -/

/-- A text without the marks in it; a mark before a character keeps that one even if it is a mark.
-/
def withoutMarks : Octets → Octets
  | [] => []
  | [c] => if c = quotedMark || c = quotesMark then [] else [c]
  | c :: d :: rest =>
    if c = quotedMark then d :: withoutMarks rest
    else if c = quotesMark then withoutMarks (d :: rest)
    else c :: withoutMarks (d :: rest)

/-- A character as it is kept. -/
def keptChar (quoted : Bool) (c : Char) : Octets :=
  if needsMark quoted c then [quotedMark, c] else [c]

/-- The characters of texts as they are kept, with zero bytes between the texts. -/
def keptTexts (quoted : Bool) (texts : List Octets) : List Octets :=
  List.intercalate [['\x00']] (texts.map fun text => text.map (keptChar quoted))

/-- A part of a pattern as it is kept. -/
def Atom.kept : Atom → Octets
  | char c origin => keptChar (origin == .quoted) c
  | mark => [quotesMark]
  | border _ => []

/-! ## Several texts -/

/-- A pattern, as it is matched and as it was kept, and the texts of which a part is cut off. -/
structure Trimming where
  pattern : Octets
  keptPattern : Octets
  first : Octets
  all : List Octets

namespace Trimming

/-- Whether what is matched is a copy of the first text. -/
def copies (trimming : Trimming) : Bool :=
  (trimming.all.take trimming.first.length).any fun kept => 1 < kept.length

/-- The bytes that are kept: those of all texts, and if the first one is copied, the pattern, over
which that was written which is matched, and the copy. -/
def memory (trimming : Trimming) : Octets :=
  let texts := trimming.all.flatten
  if trimming.copies then
    let rest := trimming.keptPattern.drop (trimming.pattern.length + 1)
    texts ++ ['\x00'] ++ trimming.pattern ++ ['\x00'] ++ rest ++
      (if rest.isEmpty then [] else ['\x00']) ++ trimming.first
  else texts

/-- Bytes up to a zero byte. -/
def untilZero (bytes : Octets) : Octets :=
  bytes.takeWhile (· ≠ '\x00')

/-- Whether the pattern matches what is kept in so many bytes at the end. -/
def holdsBack (trimming : Trimming) (count : Nat) : Bool :=
  let memory := trimming.memory
  isMatch (glyphs trimming.pattern) (untilZero (memory.drop (memory.length - count)))

/-- Whether the pattern matches the first text without what is kept in so many bytes at the end;
these may reach into the pattern. -/
def holdsFront (trimming : Trimming) (count : Nat) : Bool :=
  let { pattern, first, .. } := trimming
  let memory := trimming.memory
  let place := memory.length - count
  if !trimming.copies then isMatch (glyphs pattern) (untilZero (memory.take place))
  else if count ≤ first.length then
    isMatch (glyphs pattern) (first.take (first.length - count))
  else
    let start := trimming.all.flatten.length + 1
    isMatch (glyphs (if start ≤ place then pattern.take (place - start) else pattern)) first

/-- What is left of all characters. -/
def result (trimming : Trimming) (cut : Cut) : List Octets :=
  let { pattern, first, all, .. } := trimming
  let glyphs := glyphs pattern
  let fromFront (holds : Nat → Bool) : Option Nat :=
    (List.range (first.length + 1)).find? holds
  let fromBack (holds : Nat → Bool) : Option Nat :=
    ((List.range (all.length + 1)).find? holds).map (all.length - ·)
  match cut with
  | .shortestFront =>
    all.drop ((fromFront fun count => isMatch glyphs (first.take count)).getD 0)
  | .longestFront => all.drop ((fromBack trimming.holdsFront).getD 0)
  | .shortestBack => all.take ((fromBack trimming.holdsBack).getD all.length)
  | .longestBack =>
    all.take ((fromFront fun count => isMatch glyphs (first.drop count)).getD all.length)

end Trimming

/-- What is left of texts after a part is cut off all of them together. -/
def Cut.applyAll (cut : Cut) (quoted : Bool) (pattern : List Atom) (texts : List Octets) :
    List Octets :=
  let trimming : Trimming :=
    { pattern := patternOf pattern
      keptPattern := pattern.flatMap Atom.kept
      first := texts.headD []
      all := keptTexts quoted texts }
  Octets.split '\x00' ((trimming.result cut).filterMap List.getLast?)

end Shell

end KernelCensus
