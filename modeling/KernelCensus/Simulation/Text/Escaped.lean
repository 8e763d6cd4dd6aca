/-
# Escaped texts

A backslash in an escaped text starts an escape: a letter for a control character, digits for a
byte, or `c` for the end of all output.  A backslash before anything else stands for itself.
Which escapes there are depends on who reads them.
-/
import KernelCensus.Simulation.Text.Charset

namespace KernelCensus

namespace Escaped

/-- Which escapes a reader knows. -/
structure Dialect where
  /-- A zero may stand before three octal digits. -/
  extraZero : Bool
  /-- `c` ends all output. -/
  ends : Bool
  /-- A quotation mark may be escaped. -/
  mark : Bool
  /-- `x` with up to two hexadecimal digits is a byte. -/
  hexadecimal : Bool
  /-- `u` with four and `U` with eight hexadecimal digits are characters, and it is an error when
  digits are missing after these or after `x`. -/
  characters : Bool
  /-- How such characters are written. -/
  charset : Charset := .ascii

/-- What an escaped text stands for, and how it ends. -/
inductive Ending
  | whole
  | stopped
  | broken (complaint : Octets)
  deriving DecidableEq, Repr

/-- The bytes that are printed of an escaped text, and how the text ends. -/
structure Reading where
  bytes : Octets
  ending : Ending
  deriving DecidableEq, Repr

/-- Some bytes more at the front. -/
def Reading.after (reading : Reading) (bytes : Octets) : Reading :=
  { reading with bytes := bytes ++ reading.bytes }

/-- The value of a digit. -/
def digit? (base : Nat) (c : Char) : Option Nat :=
  let value :=
    if c.isDigit then c.toNat - 48
    else if 'a' ≤ c ∧ c ≤ 'f' then c.toNat - 87
    else if 'A' ≤ c ∧ c ≤ 'F' then c.toNat - 55
    else base
  if value < base then some value else none

/-- The value of the digits at the front of a text, at most so many, and how many there are. -/
def number (base : Nat) : Nat → Octets → Nat × Nat
  | 0, _ => (0, 0)
  | _, [] => (0, 0)
  | limit + 1, text => go limit.succ text 0 0
where
  go : Nat → Octets → Nat → Nat → Nat × Nat
    | 0, _, value, count => (value, count)
    | _, [], value, count => (value, count)
    | limit + 1, c :: cs, value, count =>
      match digit? base c with
      | some d => go limit cs (value * base + d) (count + 1)
      | none => (value, count)

/-- The byte of a number, taken modulo 256. -/
def byte (n : Nat) : Char :=
  Char.ofNat (n % 256)

/-- The control character that a letter stands for. -/
def control? (c : Char) : Option Char :=
  match c with
  | 'a' => some '\x07'
  | 'b' => some '\x08'
  | 'e' => some '\x1b'
  | 'f' => some '\x0c'
  | 'n' => some '\n'
  | 'r' => some '\r'
  | 't' => some '\t'
  | 'v' => some '\x0b'
  | '\\' => some '\\'
  | _ => none

/-- Whether the code of a character may be given by its digits: that of a control character, of most
characters of ASCII or of half a pair may not. -/
def isCharacter (code : Nat) : Bool :=
  let isSurrogate := 0xD800 ≤ code && code < 0xE000
  [0x24, 0x40, 0x60].contains code || (0xA0 ≤ code && !isSurrogate)

/-- Digits with zeros in front of them up to a width. -/
def padded (width : Nat) (digits : Octets) : Octets :=
  List.replicate (width - digits.length) '0' ++ digits

/-- How a character is written that has no bytes of its own. -/
def codeText (code : Nat) : Octets :=
  let wide := 0xFFFF < code
  ['\\', if wide then 'U' else 'u'] ++
    padded (if wide then 8 else 4) ((Nat.toDigits 16 code).map Char.toUpper)

/-- What an escape that starts with a character after the backslash stands for, and how many of the
characters after that belong to it. -/
def escape (dialect : Dialect) (c : Char) (rest : Octets) : Reading × Nat :=
  let missing : Reading := ⟨[], .broken "missing hexadecimal number in escape".toList⟩
  match control? c with
  | some control => (⟨[control], .whole⟩, 0)
  | none =>
    if c = 'c' && dialect.ends then (⟨[], .stopped⟩, 0)
    else if c = '"' && dialect.mark then (⟨['"'], .whole⟩, 0)
    else if c = '0' && dialect.extraZero then
      let (value, count) := number 8 3 rest
      (⟨[byte value], .whole⟩, count)
    else if (digit? 8 c).isSome then
      let (value, count) := number 8 3 (c :: rest)
      (⟨[byte value], .whole⟩, count - 1)
    else if c = 'x' && dialect.hexadecimal then
      match number 16 2 rest with
      | (_, 0) => if dialect.characters then (missing, 0) else (⟨['\\', 'x'], .whole⟩, 0)
      | (value, count) => (⟨[byte value], .whole⟩, count)
    else if (c = 'u' || c = 'U') && dialect.characters then
      let length := if c = 'u' then 4 else 8
      let (code, count) := number 16 length rest
      if count < length then (missing, 0)
      else if isCharacter code then
        (⟨(dialect.charset.bytesOf? code).getD (codeText code), .whole⟩, count)
      else
        (⟨[], .broken ("invalid universal character name \\".toList ++ c ::
          padded length (Nat.toDigits 16 code))⟩, 0)
    else (⟨['\\', c], .whole⟩, 0)

/-- Reads an escaped text after skipping some characters of it. -/
def readFrom (dialect : Dialect) : Octets → Nat → Reading
  | [], _ => ⟨[], .whole⟩
  | _ :: cs, skipped + 1 => readFrom dialect cs skipped
  | ['\\'], 0 => ⟨['\\'], .whole⟩
  | '\\' :: c :: cs, 0 =>
    let (reading, count) := escape dialect c cs
    if reading.ending = .whole then (readFrom dialect cs count).after reading.bytes
    else reading
  | c :: cs, 0 => (readFrom dialect cs 0).after [c]

/-- Reads an escaped text. -/
def read (dialect : Dialect) (text : Octets) : Reading :=
  readFrom dialect text 0

end Escaped

end KernelCensus
