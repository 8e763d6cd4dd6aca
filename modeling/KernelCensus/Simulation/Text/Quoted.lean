/-
# Quoted names

Names in complaints are quoted so that they can be told apart from the words around them.  A
character that is not shown as it is, and a byte that is part of none, is given by escapes of its
bytes.
-/
import KernelCensus.Simulation.Text.Charset

namespace KernelCensus

namespace Quoted

/-- The escape of a byte: a letter after a backslash, or three octal digits. -/
def escape (c : Char) : Octets :=
  match c.toNat with
  | 7 => ['\\', 'a']
  | 8 => ['\\', 'b']
  | 9 => ['\\', 't']
  | 10 => ['\\', 'n']
  | 11 => ['\\', 'v']
  | 12 => ['\\', 'f']
  | 13 => ['\\', 'r']
  | n => ['\\', Nat.digitChar (n / 64), Nat.digitChar (n / 8 % 8), Nat.digitChar (n % 8)]

/-! ## Plain quotes -/

/-- The marks before and after a quoted name. -/
def marks : Charset → Octets × Octets
  | .ascii => (['\''], ['\''])
  | .unicode => (Octets.ofText "‘", Octets.ofText "’")

/-- A name between quotation marks, with escapes. -/
def plain (charset : Charset) (name : Octets) : Octets :=
  let (opening, closing) := marks charset
  let inner := (charset.glyphs name).flatMap fun (bytes, shown) =>
    if bytes = closing || bytes = ['\\'] then '\\' :: bytes
    else if shown then bytes
    else bytes.flatMap escape
  opening ++ inner ++ closing

/-! ## Quotes for the shell -/

/-- Whether a name must be quoted to be one word of the shell. -/
def isUnsafe (charset : Charset) (name : Octets) : Bool :=
  let anywhere := "?'!\"$&()*;<=>[^`| \\".toList
  name.isEmpty || (charset.glyphs name).any (fun (_, shown) => !shown) ||
    name.any anywhere.contains || name.head? == some '#' || name.head? == some '~' ||
    name == [Char.ofNat 0x7B] || name == [Char.ofNat 0x7D]

/-- The middle of a quoted name; `escaping` says that the characters before were escapes. -/
def shellInner (escaping : Bool) : List Charset.Glyph → Octets
  | [] => []
  | (bytes, true) :: rest =>
    (if escaping then ['\'', '\''] else []) ++
      (if bytes = ['\''] then ['\'', '\\', '\'', '\''] else bytes) ++ shellInner false rest
  | (bytes, false) :: rest =>
    (if escaping then [] else ['\'', '$', '\'']) ++ bytes.flatMap escape ++ shellInner true rest

/-- A name quoted for the shell.  One with an apostrophe but nothing special is put between double
quotes. -/
def shellAlways (charset : Charset) (name : Octets) : Octets :=
  let special := "?!\"$&()*;<=>[^`|\\".toList
  let glyphs := charset.glyphs name
  if name.contains '\'' && glyphs.all Prod.snd && !name.any special.contains then
    ['"'] ++ name ++ ['"']
  else ['\''] ++ shellInner false glyphs ++ ['\'']

/-- A name quoted for the shell if it must be. -/
def shell (charset : Charset) (name : Octets) : Octets :=
  if isUnsafe charset name then shellAlways charset name else name

/-- A name before a colon, quoted for the shell if it must be, or if it holds a colon itself. -/
def shellBeforeColon (charset : Charset) (name : Octets) : Octets :=
  if name.contains ':' then shellAlways charset name else shell charset name

end Quoted

end KernelCensus
