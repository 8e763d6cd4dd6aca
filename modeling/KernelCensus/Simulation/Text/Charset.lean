/-
# Character sets

A program takes bytes as characters of ASCII, or as UTF-8 where its environment names a locale for
that.  One variable names it for everything, others for parts, and a last one where nothing else
does; if one of the names is of no locale there is, all of them are passed over.
-/
import KernelCensus.Simulation.Text.Octets
import KernelCensus.Simulation.Text.Shown

namespace KernelCensus

/-- What bytes are taken as. -/
inductive Charset
  | ascii
  | unicode
  deriving DecidableEq, Repr

namespace Charset

/-! ## Locales -/

/-- The character set of the locale of a name: the plain one, or the one with UTF-8, whose name may
hold a territory and a modifier. -/
def ofLocale? (name : Octets) : Option Charset :=
  if name = ['C'] || name = "POSIX".toList then some .ascii
  else
    let plain := name.takeWhile (· ≠ '@')
    let language := plain.takeWhile (· ≠ '.')
    let set := (plain.drop (language.length + 1)).map Char.toUpper
    if language.takeWhile (· ≠ '_') = ['C'] && (set = "UTF-8".toList || set = "UTF8".toList) then
      some .unicode
    else none

/-- The variables that name the locale for parts; the first one is about characters. -/
def partVariables : List String :=
  ["CTYPE", "NUMERIC", "TIME", "COLLATE", "MONETARY", "MESSAGES", "PAPER", "NAME", "ADDRESS",
    "TELEPHONE", "MEASUREMENT", "IDENTIFICATION"].map ("LC_" ++ ·)

/-- The name of the locale for a part, in an environment. -/
def localeFor (environment : List (Octets × Octets)) (part : String) : Octets :=
  let given (name : String) : Option Octets :=
    (environment.lookup name.toList).filter fun value => !value.isEmpty
  (((given "LC_ALL").or (given part)).or (given "LANG")).getD ['C']

/-- The character set that an environment asks for. -/
def ofEnvironment (environment : List (Octets × Octets)) : Charset :=
  match partVariables.mapM fun part => ofLocale? (localeFor environment part) with
  | some (charset :: _) => charset
  | _ => .ascii

/-! ## Characters -/

/-- A character as its bytes, and whether it is shown as it is. -/
abbrev Glyph := Octets × Bool

/-- The characters of a text.  A byte that is part of none counts as one that is not shown. -/
def glyphs (charset : Charset) (text : Octets) : List Glyph :=
  match charset with
  | .ascii => text.map fun c => ([c], isShown c && c.toNat < 0x80)
  | .unicode => go text (Utf8.pieces (Octets.toBytes text))
where
  go (text : Octets) : List Utf8.Piece → List Glyph
    | [] => []
    | .char c :: pieces =>
      let size := (Utf8.encodeChar c).length
      (text.take size, isShown c) :: go (text.drop size) pieces
    | .broken size _ :: pieces =>
      (text.take size).map (fun c => ([c], false)) ++ go (text.drop size) pieces

/-- The code of the character at the front of a text and what follows it; a byte that is part of no
character is its own code. -/
def code? (charset : Charset) : Octets → Option (Nat × Octets)
  | [] => none
  | c :: rest =>
    match charset, Utf8.pieces (Octets.toBytes ((c :: rest).take 4)) with
    | .unicode, .char d :: _ => some (d.toNat, (c :: rest).drop (Utf8.encodeChar d).length)
    | _, _ => some (c.toNat, rest)

/-- The bytes that write the character of a code, if there are any. -/
def bytesOf? (charset : Charset) (code : Nat) : Option Octets :=
  if code < 0x80 then some [Char.ofNat code]
  else
    match charset with
    | .ascii => none
    | .unicode =>
      if code.isValidChar then some (Octets.ofBytes (Utf8.encodeChar (Char.ofNat code))) else none

end Charset

end KernelCensus
