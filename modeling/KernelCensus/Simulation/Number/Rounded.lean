/-
# Writing real numbers

A fraction is rounded to the nearest number of a binary form, and that to the nearest decimal or
hexadecimal number of so many places; ties go to the even neighbour both times.
-/
import KernelCensus.Simulation.Number.Numeral

namespace KernelCensus

namespace Rounded

/-- The whole number nearest to a fraction; a tie goes to the even one. -/
def nearest (numerator denominator : Nat) : Nat :=
  let quotient := numerator / denominator
  let twice := 2 * (numerator % denominator)
  if denominator < twice || (twice = denominator && quotient % 2 = 1) then quotient + 1
  else quotient

/-- A fraction times a power of a base. -/
def shifted (numerator denominator base : Nat) (power : Int) : Nat × Nat :=
  if power < 0 then (numerator, denominator * Nat.pow base power.natAbs)
  else (numerator * Nat.pow base power.natAbs, denominator)

/-- Whether a fraction is at least a power of a base. -/
def reaches (numerator denominator base : Nat) (power : Int) : Bool :=
  let (n, d) := shifted numerator denominator base (-power)
  d ≤ n

/-- The greatest power of two that a positive fraction reaches. -/
def binaryPower (numerator denominator : Nat) : Int :=
  let guess : Int := Nat.log2 numerator - Nat.log2 denominator
  if reaches numerator denominator 2 guess then guess else guess - 1

/-- A binary form: numbers of so many digits, below a power of two. -/
structure Binary where
  digits : Nat
  limit : Nat

namespace Binary

/-- The least power of two at which a number has all of its digits; smaller ones have fewer. -/
def leastPower (form : Binary) : Int :=
  2 - form.limit

/-- The nearest number of a form as a whole number times a power of two. -/
def digitsAndPower (form : Binary) (numerator denominator : Nat) : Nat × Int :=
  if numerator = 0 then (0, 1 - form.digits)
  else
    let power := max form.leastPower (binaryPower numerator denominator) - (form.digits - 1)
    let (n, d) := shifted numerator denominator 2 (-power)
    (nearest n d, power)

/-- The nearest number of a form, if it is below the limit. -/
def round? (form : Binary) (numerator denominator : Nat) : Option (Nat × Nat) :=
  let (m, power) := form.digitsAndPower numerator denominator
  let (n, d) := shifted m 1 2 power
  if n < d * Nat.pow 2 form.limit then some (n, d) else none

/-- Whether a form has a number near a fraction: the fraction is below the limit, and not so small
that digits are lost. -/
def covers (form : Binary) (numerator denominator : Nat) : Bool :=
  match form.round? numerator denominator with
  | none => false
  | some (n, d) =>
    numerator = 0 || reaches numerator denominator 2 form.leastPower ||
      n * denominator = numerator * d

end Binary

/-- The greatest power of ten that a positive fraction reaches. -/
def decimalPower (numerator denominator : Nat) : Int :=
  let length (n : Nat) : Int := (Nat.toDigits 10 n).length
  let guess := length numerator - length denominator
  if reaches numerator denominator 10 guess then guess else guess - 1

/-- Digits with zeros in front, up to a length. -/
def padded (length : Nat) (digits : Octets) : Octets :=
  List.replicate (length - digits.length) '0' ++ digits

/-- A fraction with so many decimal places; the point may be asked for even before none. -/
def fixed (places : Nat) (point : Bool) (numerator denominator : Nat) : Octets :=
  let unit := Nat.pow 10 places
  let n := nearest (numerator * unit) denominator
  let part := padded places (Octets.ofNat (n % unit))
  Octets.ofNat (n / unit) ++
    if places = 0 then (if point then ['.'] else []) else '.' :: part

/-- The digits of a fraction, one before the point and so many after it, and the power of ten. -/
def significant (places numerator denominator : Nat) : Octets × Int :=
  if numerator = 0 then (List.replicate (places + 1) '0', 0)
  else
    let power := decimalPower numerator denominator
    let (n, d) := shifted numerator denominator 10 (places - power)
    let digits := Octets.ofNat (nearest n d)
    if digits.length = places + 2 then (digits.dropLast, power + 1) else (digits, power)

/-- The text of an exponent: a letter, a sign and at least two digits. -/
def exponent (letter : Char) (power : Int) : Octets :=
  [letter, if power < 0 then '-' else '+'] ++ padded 2 (Octets.ofNat power.natAbs)

/-- Digits with a point after the first. -/
def withPoint (point : Bool) : Octets → Octets
  | [] => []
  | [digit] => if point then [digit, '.'] else [digit]
  | digit :: more => digit :: '.' :: more

/-- A fraction in scientific form with so many decimal places. -/
def scientific (letter : Char) (places : Nat) (point : Bool) (numerator denominator : Nat) :
    Octets :=
  let (digits, power) := significant places numerator denominator
  withPoint point digits ++ exponent letter power

/-- A text without the zeros at its end. -/
def withoutZeros (text : Octets) : Octets :=
  (text.reverse.dropWhile (· = '0')).reverse

/-- A fraction with so many digits in whichever form is the shorter one; zeros at the end are left
out unless the point is asked for. -/
def general (letter : Char) (digits : Nat) (point : Bool) (numerator denominator : Nat) :
    Octets :=
  let count := max 1 digits
  let (ds, power) := significant (count - 1) numerator denominator
  if power < -4 || (count : Int) ≤ power then
    let kept := if point then ds else (ds.take 1) ++ withoutZeros (ds.drop 1)
    withPoint point kept ++ exponent letter power
  else
    let text := fixed (count - 1 - power).toNat point numerator denominator
    if point || !text.contains '.' then text
    else
      let kept := withoutZeros text
      if kept.getLast? = some '.' then kept.dropLast else kept

/-- A fraction in hexadecimal form with so many places, or as many as it needs.  The first digit
holds what is left when the other digits of the binary form are taken by fours. -/
def hexadecimal (form : Binary) (places? : Option Nat) (point : Bool)
    (numerator denominator : Nat) : Octets :=
  let (m, last) := form.digitsAndPower numerator denominator
  let all := (form.digits - 1) / 4
  let places := min all (places?.getD all)
  let (m, power) : Nat × Int :=
    if numerator = 0 then (0, 0)
    else
      let m := nearest m (Nat.pow 16 (all - places))
      let unit := Nat.pow 16 places
      if m = 16 * unit then (unit, last + 4 * all + 4) else (m, last + 4 * all)
  let digits := padded (places + 1) (Nat.toDigits 16 m)
  let kept :=
    match places? with
    | none => digits.take 1 ++ withoutZeros (digits.drop 1)
    | some wanted => digits ++ List.replicate (wanted - all) '0'
  withPoint point kept ++ ['p', if power < 0 then '-' else '+'] ++ Octets.ofNat power.natAbs

end Rounded

end KernelCensus
