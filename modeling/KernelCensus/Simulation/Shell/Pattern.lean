/-
# Patterns

A pattern is matched with a whole text.  `*` stands for any text, `?` for one character, and a
bracket for one of some characters.  A backslash takes the meaning of the character after it away,
and so does quoting in a word.
-/
import KernelCensus.Simulation.Shell.Script

namespace KernelCensus

namespace Shell

/-! ## Glyphs -/

/-- What stands between brackets. -/
inductive Member
  | range (first last : Char)
  | kind (name : Octets)
  deriving DecidableEq, Repr

/-- A part of a pattern. -/
inductive Glyph
  | exactly (c : Char)
  | one
  | many
  | among (negated : Bool) (members : List Member)
  deriving DecidableEq, Repr

/-- Whether a character belongs to a named kind. -/
def isOfKind (name : Octets) (c : Char) : Bool :=
  let isGraphic := '!' ≤ c && c ≤ '~'
  match String.ofList name with
  | "alnum" => c.isAlphanum
  | "alpha" => c.isAlpha
  | "blank" => c == ' ' || c == '\t'
  | "cntrl" => c < ' ' || c == '\x7f'
  | "digit" => c.isDigit
  | "graph" => isGraphic
  | "lower" => c.isLower
  | "print" => isGraphic || c == ' '
  | "punct" => isGraphic && !c.isAlphanum
  | "space" => c == ' ' || ('\t' ≤ c && c ≤ '\r')
  | "upper" => c.isUpper
  | "xdigit" => c.isDigit || ('a' ≤ c && c ≤ 'f') || ('A' ≤ c && c ≤ 'F')
  | _ => false

/-- The names of the kinds. -/
def kindNames : List String :=
  ["alnum", "alpha", "blank", "cntrl", "digit", "graph", "lower", "print", "punct", "space",
    "upper", "xdigit"]

/-- The name of a kind and what follows it, where `:` opened one. -/
def kind? (text : Octets) : Option (Octets × Octets) :=
  let letters := text.takeWhile Char.isLower
  match text.drop letters.length with
  | ':' :: ']' :: rest =>
    if kindNames.contains (String.ofList letters) then some (letters, rest) else none
  | _ => none

/-- The next character between brackets, and what follows it. -/
def bracketChar? : Octets → Option (Char × Octets)
  | '\\' :: c :: rest => some (c, rest)
  | c :: rest => some (c, rest)
  | [] => none

/-- The members between brackets and what follows the closing one; a bound is given. -/
def members? : Nat → Bool → Octets → Option (List Member × Octets)
  | 0, _, _ => none
  | bound + 1, first, text =>
    match first, text with
    | false, ']' :: rest => some ([], rest)
    | _, _ =>
      let named :=
        match text with
        | '[' :: ':' :: rest => kind? rest
        | _ => none
      match named with
      | some (name, rest) =>
        (members? bound false rest).map fun (members, rest) => (.kind name :: members, rest)
      | none =>
        match bracketChar? text with
        | none => none
        | some (low, rest) =>
          let upTo :=
            match rest with
            | '-' :: ']' :: _ => none
            | '-' :: more => bracketChar? more
            | _ => none
          match upTo with
          | some (high, rest) =>
            (members? bound false rest).map fun (members, rest) =>
              (.range low high :: members, rest)
          | none =>
            (members? bound false rest).map fun (members, rest) =>
              (.range low low :: members, rest)

/-- The glyph that a bracket opens, and what follows it; there is none if nothing closes it. -/
def bracket? (text : Octets) : Option (Glyph × Octets) :=
  let (negated, start) :=
    match text with
    | '!' :: rest => (true, rest)
    | _ => (false, text)
  (members? (start.length + 1) true start).map fun (members, rest) =>
    (.among negated members, rest)

/-- The glyphs of a pattern; a bound on their number is given. -/
def glyphsUpTo : Nat → Octets → List Glyph
  | 0, _ => []
  | _, [] => []
  | bound + 1, c :: rest =>
    match c, rest with
    | '*', _ => .many :: glyphsUpTo bound rest
    | '?', _ => .one :: glyphsUpTo bound rest
    | '\\', next :: more => .exactly next :: glyphsUpTo bound more
    | '[', _ =>
      match bracket? rest with
      | some (glyph, more) => glyph :: glyphsUpTo bound more
      | none => .exactly '[' :: glyphsUpTo bound rest
    | _, _ => .exactly c :: glyphsUpTo bound rest

/-- The glyphs of a pattern. -/
def glyphs (pattern : Octets) : List Glyph :=
  glyphsUpTo pattern.length pattern

/-! ## Matching -/

/-- Whether a character is a member. -/
def Member.contains (c : Char) : Member → Bool
  | range first last => first ≤ c && c ≤ last
  | kind name => isOfKind name c

/-- Whether a glyph that stands for one character stands for this one. -/
def Glyph.accepts (c : Char) : Glyph → Bool
  | exactly same => c == same
  | one => true
  | many => true
  | among negated members => members.any (Member.contains c) != negated

/-- For each beginning of some glyphs, the shortest first, whether it matches the empty text; this
is given for the empty beginning. -/
def startRow (here : Bool) : List Glyph → List Bool
  | [] => [here]
  | glyph :: glyphs => here :: startRow (here && glyph == .many) glyphs

/-- For each beginning of some glyphs whether it matches a text with a character at its end, from
whether it matches the text without that; the answer for the empty beginning is given. -/
def nextRow (c : Char) (here : Bool) : List Glyph → List Bool → List Bool
  | glyph :: glyphs, before :: row =>
    let next :=
      match glyph with
      | .many => here || row.headD false
      | glyph => before && glyph.accepts c
    here :: nextRow c next glyphs row
  | _, _ => [here]

/-- Whether all the glyphs match, from the answers for their beginnings. -/
def holds (row : List Bool) : Bool :=
  row.getLast?.getD false

/-- Whether glyphs match a whole text. -/
def isMatch (glyphs : List Glyph) (text : Octets) : Bool :=
  holds (text.foldl (fun row c => nextRow c false glyphs row) (startRow true glyphs))

/-- The lengths of the beginnings of a text that glyphs match, the shortest first. -/
def matchLengths (glyphs : List Glyph) (text : Octets) : List Nat :=
  go 0 (startRow true glyphs) text
where
  go (done : Nat) (row : List Bool) : Octets → List Nat
    | [] => if holds row then [done] else []
    | c :: cs =>
      let longer :=
        if row.contains true then go (done + 1) (nextRow c false glyphs row) cs else []
      if holds row then done :: longer else longer

end Shell

end KernelCensus
