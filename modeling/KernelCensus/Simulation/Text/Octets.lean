/-
# Octets

Programs work on bytes.  A text of bytes is kept as characters, each the character whose code is
the byte, so that bytes can be written as characters and matched like them.
-/
import KernelCensus.Text.Utf8

namespace KernelCensus

/-- A text of bytes; every character is below U+0100. -/
abbrev Octets := List Char

namespace Octets

/-- The text of some bytes. -/
def ofBytes (bytes : List UInt8) : Octets :=
  bytes.map fun b => Char.ofNat b.toNat

/-- The bytes of a text. -/
def toBytes (octets : Octets) : List UInt8 :=
  octets.map fun c => UInt8.ofNat c.toNat

/-- The bytes that write a text. -/
def ofText (text : String) : Octets :=
  ofBytes (Utf8.encode text)

/-- The decimal digits of a number. -/
def ofNat (n : Nat) : Octets :=
  (Nat.repr n).toList

/-- Whether a text comes before another by the order of bytes, or is the same. -/
def isAtMost (a b : Octets) : Bool :=
  decide (a.toBytes ≤ b.toBytes)

/-- Texts with a separator between each two. -/
def join (separator : Octets) : List Octets → Octets
  | [] => []
  | [text] => text
  | text :: texts => text ++ separator ++ join separator texts

/-- A text cut at every occurrence of a character; there is one part more than cuts. -/
def split (separator : Char) : Octets → List Octets
  | [] => [[]]
  | c :: cs =>
    if c = separator then [] :: split separator cs
    else
      match split separator cs with
      | [] => [[c]]
      | part :: parts => (c :: part) :: parts

end Octets

end KernelCensus
