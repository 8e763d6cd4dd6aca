/-
# Reading numbers

A numeral is read from the front of a text, after blanks and a sign: an integer in base ten,
eight or sixteen as its first digits say, or a real number as an exact fraction.  What follows
the numeral is left over.
-/
import KernelCensus.Simulation.Text.Escaped

namespace KernelCensus

namespace Numeral

/-- A blank that may stand before a number. -/
def isSpace (c : Char) : Bool :=
  c == ' ' || ('\t' ≤ c && c ≤ '\r')

/-- A text without the blanks at its front. -/
def skipSpaces (text : Octets) : Octets :=
  text.dropWhile isSpace

/-- Whether a minus sign stands at the front, and the text after any sign. -/
def sign : Octets → Bool × Octets
  | '-' :: rest => (true, rest)
  | '+' :: rest => (false, rest)
  | text => (false, text)

/-- The digits of a base at the front of a text. -/
def digits (base : Nat) (text : Octets) : Octets :=
  text.takeWhile fun c => (Escaped.digit? base c).isSome

/-- The number that digits of a base spell. -/
def valueOf (base : Nat) (ds : Octets) : Nat :=
  ds.foldl (fun n c => n * base + (Escaped.digit? base c).getD 0) 0

/-! ## Integers -/

/-- The base of an unsigned numeral, and the text where its digits start. -/
def baseOf (text : Octets) : Nat × Octets :=
  match text with
  | '0' :: x :: rest =>
    if (x = 'x' || x = 'X') && !(digits 16 rest).isEmpty then (16, rest)
    else (8, text)
  | '0' :: _ => (8, text)
  | _ => (10, text)

/-- The integer at the front of a text, if there is one, and what is left over. -/
def integer (text : Octets) : Option Int × Octets :=
  let (negative, unsigned) := sign (skipSpaces text)
  let (base, start) := baseOf unsigned
  let ds := digits base start
  if ds.isEmpty then (none, text)
  else
    let n : Int := valueOf base ds
    (some (if negative then -n else n), start.drop ds.length)

/-- The least and the greatest number of 64 bits with a sign. -/
def least : Int := -9223372036854775808

/-- The greatest number of 64 bits with a sign. -/
def greatest : Int := 9223372036854775807

/-- The nearest number of 64 bits with a sign. -/
def clamp (n : Int) : Int :=
  max least (min greatest n)

/-- The number of 64 bits with a sign that has the same last 64 bits. -/
def wrap (n : Int) : Int :=
  Int.bmod n 18446744073709551616

/-! ## Real numbers -/

/-- A real number: a fraction with a sign, or no finite number. -/
inductive Real
  | finite (negative : Bool) (numerator denominator : Nat)
  | infinite (negative : Bool)
  | notNumber (negative : Bool)
  deriving DecidableEq, Repr

/-- The exponent after the digits of a real number, and what is left over. -/
def exponent (mark : Char) (text : Octets) : Int × Octets :=
  match text with
  | c :: rest =>
    if c.toLower = mark then
      let (negative, unsigned) := sign rest
      let ds := digits 10 unsigned
      if ds.isEmpty then (0, text)
      else
        let n : Int := valueOf 10 ds
        (if negative then -n else n, unsigned.drop ds.length)
    else (0, text)
  | [] => (0, text)

/-- The greatest exponent, up or down, that is told apart from greater ones with a whole number:
with any base, what is so much larger or smaller is outside of all binary forms. -/
def maxExponent (n : Nat) : Int :=
  40000 + Nat.log2 n

/-- The fraction of a whole number times a power of a base. -/
def scaled (negative : Bool) (n : Nat) (base : Nat) (power : Int) : Real :=
  let power := max (-maxExponent n) (min (maxExponent n) power)
  if n = 0 then .finite negative 0 1
  else if power < 0 then .finite negative n (Nat.pow base power.natAbs)
  else .finite negative (n * Nat.pow base power.natAbs) 1

/-- Whether a text starts with a word, in any case. -/
def startsWith (word : String) (text : Octets) : Bool :=
  word.toList.isPrefixOf (text.map Char.toLower)

/-- The digits of a real number at the front of a text, those after the point apart, and what is
left over. -/
def pointed (base : Nat) (text : Octets) : Octets × Octets × Octets :=
  let whole := digits base text
  match text.drop whole.length with
  | '.' :: rest =>
    let part := digits base rest
    if whole.isEmpty && part.isEmpty then ([], [], text)
    else (whole, part, rest.drop part.length)
  | rest => (whole, [], rest)

/-- The text after the letters in brackets that may follow what is not a number. -/
def skipPayload (text : Octets) : Octets :=
  match text with
  | '(' :: rest =>
    let letters := rest.takeWhile fun c => c.isAlphanum || c == '_'
    match rest.drop letters.length with
    | ')' :: after => after
    | _ => text
  | _ => text

/-- The real number at the front of a text, if there is one, and what is left over. -/
def real (text : Octets) : Option Real × Octets :=
  let (negative, unsigned) := sign (skipSpaces text)
  if startsWith "infinity" unsigned then (some (.infinite negative), unsigned.drop 8)
  else if startsWith "inf" unsigned then (some (.infinite negative), unsigned.drop 3)
  else if startsWith "nan" unsigned then (some (.notNumber negative), skipPayload (unsigned.drop 3))
  else
    let hexadecimal := startsWith "0x" unsigned &&
      (let (whole, part, _) := pointed 16 (unsigned.drop 2); !(whole ++ part).isEmpty)
    let base := if hexadecimal then 16 else 10
    let (whole, part, rest) := pointed base (if hexadecimal then unsigned.drop 2 else unsigned)
    if (whole ++ part).isEmpty then (none, text)
    else
      let n := valueOf base (whole ++ part)
      if hexadecimal then
        let (power, rest) := exponent 'p' rest
        (some (scaled negative n 2 (power - 4 * part.length)), rest)
      else
        let (power, rest) := exponent 'e' rest
        (some (scaled negative n 10 (power - part.length)), rest)

end Numeral

end KernelCensus
