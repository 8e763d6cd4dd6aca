/-
# Tokens of the settings file

The settings file is a TOML document that may set two keys, one to a string and the other to an
array of strings.  Its tokens are bare keys, strings, a few marks and line ends; blanks and
comments separate tokens and are dropped.  Any other character is refused.

Text is read one character at a time.  What a character means depends on the mode: between
tokens, inside a comment, inside one of the four kinds of string.  Modes keep what has been read
of a token in reverse.
-/

namespace KernelCensus

namespace Settings

/-- A token; `long` marks a string between triple quotes, which may span lines. -/
inductive Token
  | word (text : String)
  | string (text : String) (long : Bool)
  | equals
  | opening
  | closing
  | comma
  | lineEnd
  deriving DecidableEq, Repr

/-! ## Classes of characters -/

/-- A character of a bare key. -/
def isWordChar (c : Char) : Bool :=
  c.isAlphanum || c == '_' || c == '-'

/-- A character that may stand for itself on a line: a tab, or no control character. -/
def isLineChar (c : Char) : Bool :=
  c == '\t' || (' ' ≤ c && c != '\x7F')

/-- Whether the text goes on with a character of a bare key. -/
def startsWithWordChar : List Char → Bool
  | [] => false
  | c :: _ => isWordChar c

/-- The value of a hexadecimal digit. -/
def hexValue? (c : Char) : Option Nat :=
  if c.isDigit then some (c.toNat - '0'.toNat)
  else if 'a' ≤ c ∧ c ≤ 'f' then some (c.toNat - 'a'.toNat + 10)
  else if 'A' ≤ c ∧ c ≤ 'F' then some (c.toNat - 'A'.toNat + 10)
  else none

/-- The character that a single letter stands for after a backslash. -/
def escaped? (c : Char) : Option Char :=
  match c with
  | 'b' => some '\x08'
  | 't' => some '\t'
  | 'n' => some '\n'
  | 'f' => some '\x0C'
  | 'r' => some '\r'
  | '"' => some '"'
  | '\\' => some '\\'
  | _ => none

/-! ## Modes -/

/-- What the next character is part of. -/
inductive Mode
  | between
  /-- After a carriage return: only a line feed may follow. -/
  | carriage
  | comment
  | word (read : List Char)
  | basic (read : List Char)
  | literal (read : List Char)
  /-- In a long basic string; after a backslash at a line's end, `indent`, blanks and line ends
  are dropped. -/
  | longBasic (read : List Char) (indent : Bool)
  | longLiteral (read : List Char)
  /-- After a carriage return in a long string. -/
  | longCarriage (next : Mode)
  /-- After a backslash. -/
  | escape (long : Bool) (read : List Char)
  /-- After a backslash and blanks: only a line end may follow. -/
  | gap (read : List Char)
  /-- In the hexadecimal code of a character, with so many digits left. -/
  | code (long : Bool) (read : List Char) (left : Nat) (value : Nat)

/-- The mode inside a basic string. -/
def Mode.inBasic (long : Bool) (read : List Char) : Mode :=
  if long then .longBasic read false else .basic read

/-! ## Reading -/

/-- The token of a string whose characters were kept in reverse. -/
def stringToken (read : List Char) (long : Bool) : Token :=
  .string (String.ofList read.reverse) long

/-- The tokens of a text, read from a mode on, or nothing when it cannot be read. -/
def tokensFrom : List Char → Mode → Option (List Token)
  | [], .between => some []
  | [], .comment => some []
  | [], _ => none
  | c :: cs, .between =>
    if c == ' ' || c == '\t' then tokensFrom cs .between
    else if c == '\n' then (tokensFrom cs .between).map (.lineEnd :: ·)
    else if c == '\r' then tokensFrom cs .carriage
    else if c == '#' then tokensFrom cs .comment
    else if c == '=' then (tokensFrom cs .between).map (.equals :: ·)
    else if c == '[' then (tokensFrom cs .between).map (.opening :: ·)
    else if c == ']' then (tokensFrom cs .between).map (.closing :: ·)
    else if c == ',' then (tokensFrom cs .between).map (.comma :: ·)
    else if c == '"' then
      match cs with
      | '"' :: '"' :: '\n' :: rest => tokensFrom rest (.longBasic [] false)
      | '"' :: '"' :: '\r' :: '\n' :: rest => tokensFrom rest (.longBasic [] false)
      | '"' :: '"' :: rest => tokensFrom rest (.longBasic [] false)
      | rest => tokensFrom rest (.basic [])
    else if c == '\'' then
      match cs with
      | '\'' :: '\'' :: '\n' :: rest => tokensFrom rest (.longLiteral [])
      | '\'' :: '\'' :: '\r' :: '\n' :: rest => tokensFrom rest (.longLiteral [])
      | '\'' :: '\'' :: rest => tokensFrom rest (.longLiteral [])
      | rest => tokensFrom rest (.literal [])
    else if isWordChar c then
      if startsWithWordChar cs then tokensFrom cs (.word [c])
      else (tokensFrom cs .between).map (.word (String.ofList [c]) :: ·)
    else none
  | c :: cs, .carriage =>
    if c == '\n' then (tokensFrom cs .between).map (.lineEnd :: ·) else none
  | c :: cs, .comment =>
    if c == '\n' then (tokensFrom cs .between).map (.lineEnd :: ·)
    else if c == '\r' then tokensFrom cs .carriage
    else if isLineChar c then tokensFrom cs .comment
    else none
  | c :: cs, .word read =>
    if startsWithWordChar cs then tokensFrom cs (.word (c :: read))
    else (tokensFrom cs .between).map (.word (String.ofList (c :: read).reverse) :: ·)
  | c :: cs, .basic read =>
    if c == '"' then (tokensFrom cs .between).map (stringToken read false :: ·)
    else if c == '\\' then tokensFrom cs (.escape false read)
    else if isLineChar c then tokensFrom cs (.basic (c :: read))
    else none
  | c :: cs, .literal read =>
    if c == '\'' then (tokensFrom cs .between).map (stringToken read false :: ·)
    else if isLineChar c then tokensFrom cs (.literal (c :: read))
    else none
  | c :: cs, .longBasic read indent =>
    if indent && (c == ' ' || c == '\t' || c == '\n') then tokensFrom cs (.longBasic read true)
    else if c == '\r' then
      tokensFrom cs (.longCarriage
        (if indent then .longBasic read true else .longBasic ('\n' :: read) false))
    else if c == '"' then
      match cs with
      | '"' :: '"' :: '"' :: '"' :: rest =>
        (tokensFrom rest .between).map (stringToken ('"' :: '"' :: read) true :: ·)
      | '"' :: '"' :: '"' :: rest =>
        (tokensFrom rest .between).map (stringToken ('"' :: read) true :: ·)
      | '"' :: '"' :: rest => (tokensFrom rest .between).map (stringToken read true :: ·)
      | rest => tokensFrom rest (.longBasic ('"' :: read) false)
    else if c == '\\' then tokensFrom cs (.escape true read)
    else if c == '\n' || isLineChar c then tokensFrom cs (.longBasic (c :: read) false)
    else none
  | c :: cs, .longLiteral read =>
    if c == '\r' then tokensFrom cs (.longCarriage (.longLiteral ('\n' :: read)))
    else if c == '\'' then
      match cs with
      | '\'' :: '\'' :: '\'' :: '\'' :: rest =>
        (tokensFrom rest .between).map (stringToken ('\'' :: '\'' :: read) true :: ·)
      | '\'' :: '\'' :: '\'' :: rest =>
        (tokensFrom rest .between).map (stringToken ('\'' :: read) true :: ·)
      | '\'' :: '\'' :: rest => (tokensFrom rest .between).map (stringToken read true :: ·)
      | rest => tokensFrom rest (.longLiteral ('\'' :: read))
    else if c == '\n' || isLineChar c then tokensFrom cs (.longLiteral (c :: read))
    else none
  | c :: cs, .longCarriage next => if c == '\n' then tokensFrom cs next else none
  | c :: cs, .escape long read =>
    match escaped? c with
    | some character => tokensFrom cs (.inBasic long (character :: read))
    | none =>
      if c == 'u' then tokensFrom cs (.code long read 4 0)
      else if c == 'U' then tokensFrom cs (.code long read 8 0)
      else if !long then none
      else if c == ' ' || c == '\t' then tokensFrom cs (.gap read)
      else if c == '\n' then tokensFrom cs (.longBasic read true)
      else if c == '\r' then tokensFrom cs (.longCarriage (.longBasic read true))
      else none
  | c :: cs, .gap read =>
    if c == ' ' || c == '\t' then tokensFrom cs (.gap read)
    else if c == '\n' then tokensFrom cs (.longBasic read true)
    else if c == '\r' then tokensFrom cs (.longCarriage (.longBasic read true))
    else none
  | c :: cs, .code long read left value =>
    match hexValue? c with
    | none => none
    | some digit =>
      let value := value * 16 + digit
      if left > 1 then tokensFrom cs (.code long read (left - 1) value)
      else if value.isValidChar then tokensFrom cs (.inBasic long (Char.ofNat value :: read))
      else none

/-- The tokens of a text; a byte order mark at its front is dropped. -/
def tokens? (text : String) : Option (List Token) :=
  match text.toList with
  | '\uFEFF' :: cs => tokensFrom cs .between
  | cs => tokensFrom cs .between

end Settings

end KernelCensus
