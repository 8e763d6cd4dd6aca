/-
# Formatting

A format holds text with escapes, and directives that take arguments and print them as text,
whole numbers or real numbers.  A format that takes arguments is printed again while any are left;
arguments that are missing count as empty.
-/
import KernelCensus.Simulation.Number.Rounded
import KernelCensus.Simulation.Text.Quoted

namespace KernelCensus

namespace Format

/-! ## Dialects -/

/-- What differs between those who print formats. -/
structure Dialect where
  /-- What the bytes of arguments are taken as. -/
  charset : Charset := .ascii
  escapes : Escaped.Dialect
  /-- The escapes in arguments that are printed with escapes. -/
  argumentEscapes : Escaped.Dialect
  /-- Whether a backslash before a percent sign takes that sign's meaning away. -/
  escapesPercent : Bool
  /-- Whether letters of length may stand before the kind of a directive, arguments may be quoted
  for the shell, and some flags are refused with some kinds. -/
  extended : Bool
  /-- Whether an escape that ends all output ends it with success even after a complaint. -/
  endsWell : Bool
  /-- The form of real numbers. -/
  form : Rounded.Binary
  /-- What is said of an argument that starts with no number. -/
  notNumeric : Octets → Octets
  /-- What is said of an argument with more after a number. -/
  notWhole : Octets → Octets
  /-- What is said of a number that is too large, and whether that is said if more follows it. -/
  outOfRange : Octets → Octets
  rangeFirst : Bool
  /-- What is said of more after a character that stands for its code; nothing is said without
  this. -/
  notAlone : Option (Octets → Octets)
  /-- What is said of a width or a precision, named first, that is too large for 32 bits; its last
  32 bits are taken without this. -/
  tooLarge : Option (Octets → Octets → Octets)
  /-- What is said of a directive that there is none of. -/
  badDirective : Octets → Octets
  /-- What is said of a percent sign at the end of a format. -/
  unfinished : Octets → Octets
  /-- The exit code after a directive that there is none of. -/
  badCode : Nat
  /-- What is said where a width or a precision that is given in the format is too large, which ends
  the printing; without this nothing is printed there. -/
  unfit : Option Octets

/-! ## Parts -/

/-- A width or a precision: given in the format, or taken from an argument. -/
inductive Measure
  | fixed (n : Nat)
  | taken
  deriving DecidableEq, Repr

/-- What stands between a star and the kind of a directive where the star follows a number:
nothing is laid out then.  `inWidth` says that the number is the width. -/
structure Stray where
  inWidth : Bool
  text : Octets
  deriving Repr

/-- A directive: its flags, width, precision and kind. -/
structure Directive where
  flags : Octets
  width : Option Measure
  precision : Option Measure
  kind : Char
  stray : Option Stray := none
  deriving Repr

/-- A part of a format.  One that is no directive is kept as it was written, with its width and
precision. -/
inductive Part
  | text (text : Octets)
  | percent
  | directive (directive : Directive)
  | bad (width precision : Option Measure) (text : Octets)
  | unfinished (width precision : Option Measure) (text : Octets)

/-- The measure at the front of a text, and what follows it. -/
def measure : Octets → Option Measure × Octets
  | '*' :: rest => (some .taken, rest)
  | text =>
    let ds := Numeral.digits 10 text
    if ds.isEmpty then (none, text)
    else (some (.fixed (Numeral.valueOf 10 ds)), text.drop ds.length)

/-- What follows the numbers and stars at the front of a text, and what stands after the first star
there if a number comes before it. -/
def afterMeasure (text : Octets) : Octets × Option Octets :=
  let isPart (c : Char) : Bool := c.isDigit || c == '*'
  let rest := (text.dropWhile Char.isDigit)
  if rest.head? = some '*' && rest.length < text.length then
    (text.dropWhile isPart, some rest.tail)
  else (rest, none)

/-- The kinds of directives that may have flags, a width and a precision. -/
def kinds : List Char := "diouxXcsaAeEfFgG".toList

/-- Whether flags and a precision go with a kind. -/
def isAllowed (directive : Directive) : Bool :=
  let flag (c : Char) : Bool := directive.flags.contains c
  let kind (among : String) : Bool := among.toList.contains directive.kind
  !((flag '\'' || flag 'I') && kind "aAceEosxX") && !(flag '#' && kind "cdisu") &&
    !(flag '0' && kind "cs") && !(directive.precision.isSome && kind "c")

/-- The part after a percent sign, and what follows it. -/
def directive (dialect : Dialect) (text : Octets) : Part × Octets :=
  match text with
  | '%' :: rest => (.percent, rest)
  | 'b' :: rest => (.directive ⟨[], none, none, 'b', none⟩, rest)
  | _ =>
    let isFlag (c : Char) : Bool :=
      "-+ #0".toList.contains c || (dialect.extended && (c == '\'' || c == 'I'))
    let strayIn (start : Octets) (rest : Octets) : Octets × Option Octets :=
      if dialect.extended then (rest, none)
      else
        let (after, stray) := afterMeasure start
        if stray.isSome then (after, stray) else (rest, none)
    let flags := text.takeWhile isFlag
    let (width, rest) := measure (text.drop flags.length)
    let (rest, inWidth) := strayIn (text.drop flags.length) rest
    let (precision, rest, inPrecision) :=
      match rest with
      | '.' :: start =>
        let (found, rest) := measure start
        let (rest, stray) := strayIn start rest
        (some (found.getD (.fixed 0)), rest, stray)
      | rest => (none, rest, none)
    let rest := if dialect.extended then rest.dropWhile "lLhjtz".toList.contains else rest
    match rest with
    | [] => (.unfinished width precision text, [])
    | kind :: after =>
      let strayText := (inWidth.map fun text => (true, text)).or
        (inPrecision.map fun text => (false, text))
      let stray : Option Stray := strayText.map fun (inWidth, stray) =>
        { inWidth, text := stray.take (stray.length - rest.length) }
      let found : Directive := { flags, width, precision, kind, stray }
      let known :=
        (kinds.contains kind && (!dialect.extended || isAllowed found)) ||
          (kind == 'q' && dialect.extended && text.head? == some 'q') ||
          (kind == 'b' && !dialect.extended)
      if known then (.directive found, after)
      else (.bad width precision (text.take (text.length - after.length)), after)

/-- The length of the text before the next percent sign. -/
def textLength (dialect : Dialect) : Octets → Nat
  | [] => 0
  | '%' :: _ => 0
  | '\\' :: c :: cs =>
    if c = '%' && !dialect.escapesPercent then 1 else 2 + textLength dialect cs
  | _ :: cs => 1 + textLength dialect cs

/-- The parts of a format; a bound on their number is given. -/
def partsUpTo (dialect : Dialect) : Nat → Octets → List Part
  | 0, _ => []
  | _, [] => []
  | bound + 1, '%' :: rest =>
    let (part, rest) := directive dialect rest
    part :: partsUpTo dialect bound rest
  | bound + 1, text =>
    let length := max 1 (textLength dialect text)
    .text (text.take length) :: partsUpTo dialect bound (text.drop length)

/-- The parts of a format. -/
def parts (dialect : Dialect) (format : Octets) : List Part :=
  partsUpTo dialect (format.length + 1) format

/-! ## Printing -/

/-- Something printed: a text as one, bytes one by one, or a complaint without the name of who
complains.  What is too wide is lost. -/
inductive Output
  | text (text : Octets)
  | bytes (bytes : Octets)
  | complaint (text : Octets)
  | lost
  deriving Repr

/-- How far printing has come: the arguments left, whether any was asked for, what was printed in
reverse, whether a number was bad, and the exit code if printing has ended. -/
structure Progress where
  arguments : List Octets
  asked : Bool := false
  outputs : List Output := []
  failed : Bool := false
  ended : Option Nat := none

namespace Progress

/-- Prints some text. -/
def print (progress : Progress) (text : Octets) : Progress :=
  { progress with outputs := .text text :: progress.outputs }

/-- Prints some bytes one by one. -/
def printBytes (progress : Progress) (bytes : Octets) : Progress :=
  { progress with outputs := .bytes bytes :: progress.outputs }

/-- Complains of something that does no harm. -/
def warn (progress : Progress) (complaint : Octets) : Progress :=
  { progress with outputs := .complaint complaint :: progress.outputs }

/-- Complains of a number. -/
def fail (progress : Progress) (complaint : Octets) : Progress :=
  { progress with outputs := .complaint complaint :: progress.outputs, failed := true }

/-- Ends printing with a code. -/
def stop (progress : Progress) (code : Nat) : Progress :=
  { progress with ended := some code }

/-- Prints what was read of an escaped text, which may end the printing. -/
def printEscaped (progress : Progress) (dialect : Dialect) (reading : Escaped.Reading)
    (shown : Octets → Octets) : Progress :=
  let progress := progress.printBytes (shown reading.bytes)
  match reading.ending with
  | .whole => progress
  | .stopped => progress.stop (if progress.failed && !dialect.endsWell then 1 else 0)
  | .broken complaint => (progress.fail complaint).stop 1

/-- The next argument. -/
def take (progress : Progress) : Option Octets × Progress :=
  match progress.arguments with
  | [] => (none, { progress with asked := true })
  | argument :: rest => (some argument, { progress with arguments := rest, asked := true })

/-- Complains when more follows a number, or when there is none. -/
def checked (progress : Progress) (dialect : Dialect) (argument rest : Octets) (found : Bool) :
    Progress :=
  if rest.isEmpty then progress
  else if found then progress.fail (dialect.notWhole argument)
  else progress.fail (dialect.notNumeric argument)

/-- Complains of a number that is too large, or of what follows it. -/
def exceeded (progress : Progress) (dialect : Dialect) (argument rest : Octets) : Progress :=
  if dialect.rangeFirst || rest.isEmpty then progress.fail (dialect.outOfRange argument)
  else progress.fail (dialect.notWhole argument)

/-- The code that an argument such as `'a` stands for, and what follows the character: the code is
that of the character after the quote, or zero after a quote alone if that is allowed. -/
def quotedCode? (dialect : Dialect) : Octets → Option (Nat × Octets)
  | [] => none
  | quote :: cs =>
    if quote ≠ '\'' && quote ≠ '"' then none
    else
      match dialect.charset.code? cs with
      | some found => some found
      | none => if dialect.extended then none else some (0, [])

/-- Warns of more after a character that stands for its code. -/
def warned (progress : Progress) (dialect : Dialect) (rest : Octets) : Progress :=
  match dialect.notAlone with
  | some complaint => if rest.isEmpty then progress else progress.warn (complaint rest)
  | none => progress

/-- The whole number that the next argument gives. -/
def integer (progress : Progress) (dialect : Dialect) (signed : Bool) : Int × Progress :=
  match progress.take with
  | (none, progress) => (0, progress)
  | (some argument, progress) =>
    match quotedCode? dialect argument with
    | some (code, rest) => (code, progress.warned dialect rest)
    | none =>
      match Numeral.integer argument with
      | (none, rest) => (0, progress.checked dialect argument rest false)
      | (some n, rest) =>
        let most : Int := if signed then Numeral.greatest else 18446744073709551615
        if n < (if signed then Numeral.least else -most) then
          (if signed then Numeral.least else most, progress.exceeded dialect argument rest)
        else if most < n then (most, progress.exceeded dialect argument rest)
        else (n, progress.checked dialect argument rest true)

/-- The real number that the next argument gives. -/
def real (progress : Progress) (dialect : Dialect) : Numeral.Real × Progress :=
  match progress.take with
  | (none, progress) => (.finite false 0 1, progress)
  | (some argument, progress) =>
    match quotedCode? dialect argument with
    | some (code, rest) => (.finite false code 1, progress.warned dialect rest)
    | none =>
      match Numeral.real argument with
      | (none, rest) => (.finite false 0 1, progress.checked dialect argument rest false)
      | (some (.finite negative numerator denominator), rest) =>
        let n : Numeral.Real := .finite negative numerator denominator
        if dialect.form.covers numerator denominator then
          (n, progress.checked dialect argument rest true)
        else (n, progress.exceeded dialect argument rest)
      | (some n, rest) => (n, progress.checked dialect argument rest true)

/-- The number that a width or a precision has; a negative one may be as small as it likes if it is
said so. -/
def measured (progress : Progress) (dialect : Dialect) (name : String) (anyNegative : Bool) :
    Option Measure → Option Int × Progress
  | none => (none, progress)
  | some (.fixed n) => (some n, progress)
  | some .taken =>
    let (n, after) := progress.integer dialect true
    match dialect.tooLarge with
    | none => (some (Int.bmod n 4294967296), after)
    | some complaint =>
      if 2147483648 ≤ n || (n < -2147483648 && !anyNegative) then
        let argument := (progress.arguments.head?).getD []
        (none, (after.fail (complaint name.toList argument)).stop 1)
      else (some n, after)

/-- The width and the precision, which may end the printing. -/
def measures (progress : Progress) (dialect : Dialect) (width precision : Option Measure) :
    Option Int × Option Int × Progress :=
  let (width, progress) := progress.measured dialect "field width" false width
  if progress.ended.isSome then (width, none, progress)
  else
    let (precision, progress) := progress.measured dialect "precision" true precision
    (width, precision, progress)

end Progress

/-! ### Layout -/

/-- How a directive lays out what it prints. -/
structure Layout where
  flags : Octets
  width : Nat
  left : Bool
  precision : Option Nat

/-- A text in its width, with blanks beside it. -/
def Layout.place (layout : Layout) (text : Octets) : Octets :=
  let blanks := List.replicate (layout.width - text.length) ' '
  if layout.left then text ++ blanks else blanks ++ text

/-- The sign of a number. -/
def Layout.sign (layout : Layout) (negative : Bool) : Octets :=
  if negative then ['-']
  else if layout.flags.contains '+' then ['+']
  else if layout.flags.contains ' ' then [' ']
  else []

/-- A number in its width, with zeros after its sign if they are asked for and allowed. -/
def Layout.placeNumber (layout : Layout) (zeros : Bool) (sign digits : Octets) : Octets :=
  if zeros && layout.flags.contains '0' && !layout.left then
    sign ++ Rounded.padded (layout.width - sign.length) digits
  else layout.place (sign ++ digits)

/-- Digits of a whole number, at least as many as the precision says; zero may have none. -/
def Layout.atLeast (layout : Layout) (digits : Octets) : Octets :=
  let least := layout.precision.getD 1
  if digits = ['0'] && least = 0 then [] else Rounded.padded least digits

/-- The digits of a number in a base, small or capital. -/
def digitsIn (base : Nat) (capital : Bool) (n : Nat) : Octets :=
  let ds := Nat.toDigits base n
  if capital then ds.map Char.toUpper else ds

/-- A whole number as a kind of directive prints it. -/
def Layout.integer (layout : Layout) (kind : Char) (n : Int) : Octets :=
  let unsigned := (n % 18446744073709551616).toNat
  let alternate := layout.flags.contains '#'
  let place := layout.placeNumber layout.precision.isNone
  match kind with
  | 'o' =>
    let digits := layout.atLeast (digitsIn 8 false unsigned)
    place [] (if alternate && digits.head? ≠ some '0' then '0' :: digits else digits)
  | 'x' => place (if alternate && unsigned ≠ 0 then ['0', 'x'] else [])
      (layout.atLeast (digitsIn 16 false unsigned))
  | 'X' => place (if alternate && unsigned ≠ 0 then ['0', 'X'] else [])
      (layout.atLeast (digitsIn 16 true unsigned))
  | 'u' => place [] (layout.atLeast (Octets.ofNat unsigned))
  | _ => place (layout.sign (n < 0)) (layout.atLeast (Octets.ofNat n.natAbs))

/-- A finite real number as a kind of directive prints it: what is in front of the digits, and
these. -/
def Layout.finite (layout : Layout) (form : Rounded.Binary) (kind : Char) (n d : Nat) :
    Octets × Octets :=
  let places := layout.precision.getD 6
  let point := layout.flags.contains '#'
  match kind with
  | 'a' => (['0', 'x'], Rounded.hexadecimal form layout.precision point n d)
  | 'e' => ([], Rounded.scientific 'e' places point n d)
  | 'f' => ([], Rounded.fixed places point n d)
  | _ => ([], Rounded.general 'e' places point n d)

/-- A real number as a kind of directive prints it, rounded to a binary form. -/
def Layout.real (layout : Layout) (form : Rounded.Binary) (kind : Char) (n : Numeral.Real) :
    Octets :=
  let cased (text : Octets) : Octets := if kind.isUpper then text.map Char.toUpper else text
  let word (negative : Bool) (text : String) : Octets :=
    layout.placeNumber false (layout.sign negative) (cased text.toList)
  match n with
  | .notNumber negative => word negative "nan"
  | .infinite negative => word negative "inf"
  | .finite negative numerator denominator =>
    match form.round? numerator denominator with
    | none => word negative "inf"
    | some (n, d) =>
      let (mark, digits) := layout.finite form kind.toLower n d
      layout.placeNumber true (layout.sign negative ++ cased mark) (cased digits)

/-! ### Directives -/

/-- A directive with a stray star as it is printed, with the numbers that were given. -/
def Layout.unlaid (layout : Layout) (kind : Char) (stray : Stray) : Octets :=
  let flag (c : Char) : Octets := if layout.flags.contains c then [c] else []
  let sign := if layout.flags.contains '+' then ['+'] else flag ' '
  let side := if layout.left then ['-'] else flag '0'
  let width := if layout.width = 0 then [] else Octets.ofNat layout.width
  let precision :=
    if stray.inWidth then []
    else
      match layout.precision with
      | some n => '.' :: Octets.ofNat n
      | none => []
  let spelled :=
    if "diouxX".toList.contains kind then ['l', kind] else if kind = 'b' then ['s'] else [kind]
  ['%'] ++ flag '#' ++ sign ++ side ++ width ++ precision ++ ['*'] ++ stray.text ++ spelled

/-- Whether something printed is a complaint. -/
def Output.isComplaint : Output → Bool
  | complaint _ => true
  | _ => false

/-- What was printed since another time, where something takes the place of all output. -/
def Progress.showing (after before : Progress) (output : Output) : Progress :=
  let added := after.outputs.take (after.outputs.length - before.outputs.length)
  { after with outputs := output :: added.filter Output.isComplaint ++ before.outputs }

/-- Carries out a directive laid out like this. -/
def Progress.printDirective (progress : Progress) (dialect : Dialect) (layout : Layout)
    (kind : Char) : Progress :=
  if kind = 's' then
    let (argument, progress) := progress.take
    let text := argument.getD []
    progress.print (layout.place (text.take (layout.precision.getD text.length)))
  else if kind = 'c' then
    let (argument, progress) := progress.take
    progress.print (layout.place (((argument.getD []).take 1 ++ ['\x00']).take 1))
  else if kind = 'b' then
    let (argument, progress) := progress.take
    progress.printEscaped dialect (Escaped.read dialect.argumentEscapes (argument.getD []))
      fun text => layout.place (text.take (layout.precision.getD text.length))
  else if kind = 'q' then
    let (argument, progress) := progress.take
    match argument with
    | some text => progress.print (Quoted.shell dialect.charset text)
    | none => progress
  else if "aAeEfFgG".toList.contains kind then
    let (n, progress) := progress.real dialect
    progress.print (layout.real dialect.form kind n)
  else
    let (n, progress) := progress.integer dialect (kind = 'd' || kind = 'i')
    progress.print (layout.integer kind n)

/-- The greatest width and precision. -/
def maxMeasure : Int := 2147483647

/-- Carries out a directive whose width or precision is too large: its argument is taken, but not
printed. -/
def Progress.passOver (progress : Progress) (dialect : Dialect) (directive : Directive) :
    Progress :=
  let layout : Layout := { flags := [], width := 0, left := false, precision := none }
  let after := (progress.printDirective dialect layout directive.kind).showing progress .lost
  match dialect.unfit with
  | some complaint => (after.fail complaint).stop dialect.badCode
  | none => after

/-- Carries out a directive with its width and precision. -/
def Progress.carryOut (progress : Progress) (dialect : Dialect) (directive : Directive)
    (width precision : Option Int) : Progress :=
  if maxMeasure < width.getD 0 || maxMeasure < precision.getD 0 then
    progress.passOver dialect directive
  else
    let width := width.getD 0
    let layout : Layout :=
      { flags := directive.flags
        width := width.natAbs
        left := directive.flags.contains '-' || width < 0
        precision := precision.bind fun n => if n < 0 then none else some n.toNat }
    let after := progress.printDirective dialect layout directive.kind
    match directive.stray with
    | some stray => after.showing progress (.text (layout.unlaid directive.kind stray))
    | none => after

/-- Takes a width and a precision, and goes on with them unless they end the printing. -/
def Progress.measuring (progress : Progress) (dialect : Dialect) (width precision : Option Measure)
    (next : Progress → Option Int → Option Int → Progress) : Progress :=
  let (width, precision, progress) := progress.measures dialect width precision
  if progress.ended.isSome then progress else next progress width precision

/-- Prints one part of a format, unless printing has ended. -/
def Progress.printPart (dialect : Dialect) (progress : Progress) (part : Part) : Progress :=
  if progress.ended.isSome then progress
  else
    match part with
    | .text text => progress.printEscaped dialect (Escaped.read dialect.escapes text) id
    | .percent => progress.printBytes ['%']
    | .directive directive =>
      progress.measuring dialect directive.width directive.precision fun progress =>
        progress.carryOut dialect directive
    | .bad width precision text =>
      progress.measuring dialect width precision fun progress _ _ =>
        (progress.fail (dialect.badDirective ('%' :: text))).stop dialect.badCode
    | .unfinished width precision text =>
      progress.measuring dialect width precision fun progress _ _ =>
        (progress.fail (dialect.unfinished ('%' :: text))).stop dialect.badCode

/-- Prints the parts of a format again and again while it takes arguments, at most so many
times. -/
def rounds (dialect : Dialect) (parts : List Part) : Nat → Progress → Progress
  | 0, progress => progress
  | bound + 1, progress =>
    let after := parts.foldl (Progress.printPart dialect) progress
    if after.ended.isSome || after.arguments.isEmpty || !after.asked then after
    else rounds dialect parts bound after

/-- Prints a format with arguments. -/
def print (dialect : Dialect) (format : Octets) (arguments : List Octets) : Progress :=
  rounds dialect (parts dialect format) (arguments.length + 1) { arguments }

/-- The exit code after printing. -/
def Progress.code (progress : Progress) : Nat :=
  progress.ended.getD (if progress.failed then 1 else 0)

end Format

end KernelCensus
