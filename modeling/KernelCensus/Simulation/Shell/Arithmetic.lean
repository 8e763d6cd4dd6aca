/-
# Arithmetic

Expressions over whole numbers of 64 bits with a sign.  A name stands for the number that its
variable spells, and for zero where there is none; an assignment changes the variable.
-/
import KernelCensus.Simulation.Number.Numeral
import KernelCensus.Simulation.Shell.Script

namespace KernelCensus

namespace Shell

namespace Arithmetic

/-! ## Expressions -/

/-- An operation on two numbers. -/
inductive Operation
  | multiply
  | divide
  | remainder
  | add
  | subtract
  | shiftLeft
  | shiftRight
  | less
  | lessOrEqual
  | greater
  | greaterOrEqual
  | equal
  | unequal
  | bitAnd
  | bitXor
  | bitOr
  deriving DecidableEq, Repr

/-- An operation on one number. -/
inductive Inversion
  | negative
  | isZero
  | complement
  deriving DecidableEq, Repr

/-- Why an expression has no value.  `overflow` is a quotient that is too large. -/
inductive Fault
  | expecting (what : String)
  | divisionByZero
  | overflow
  | illegalNumber (text : Octets)
  deriving DecidableEq, Repr

/-- An expression.  Where a text is no expression, what was read of it is broken off. -/
inductive Expression
  | number (n : Int)
  | name (name : Octets)
  | inverted (inversion : Inversion) (operand : Expression)
  | operated (operation : Operation) (left right : Expression)
  | both (left right : Expression)
  | either (left right : Expression)
  | choice (condition yes no : Expression)
  | assignment (name : Octets) (operation : Option Operation) (value : Expression)
  | broken (fault : Fault)
  | brokenAfter (done : Expression) (fault : Fault)
  deriving Repr

/-- The fault in words, for the text of the expression; a process that finds a quotient too large
does not come to saying so. -/
def Fault.words (text : Octets) : Fault → Octets
  | overflow => []
  | expecting what =>
    "arithmetic expression: expecting ".toList ++ what.toList ++ ": \"".toList ++ text ++ ['"']
  | divisionByZero =>
    "arithmetic expression: division by zero: \"".toList ++ text ++ ['"']
  | illegalNumber text => "Illegal number: ".toList ++ text

/-! ## Tokens -/

/-- A part of the text of an expression. -/
inductive Token
  | number (n : Int)
  | name (name : Octets)
  | operator (text : String)
  | unknown
  deriving DecidableEq, Repr

/-- The operators, longer ones before their beginnings. -/
def operators : List String :=
  ["<<=", ">>=", "<<", ">>", "<=", ">=", "==", "!=", "&&", "||", "*=", "/=", "%=", "+=", "-=",
    "&=", "^=", "|=", "*", "/", "%", "+", "-", "<", ">", "&", "^", "|", "!", "~", "?", ":", "=",
    "(", ")"]

/-- The tokens of a text, of which some characters are skipped. -/
def tokensAfter : Nat → Octets → List Token
  | _, [] => []
  | skipped + 1, _ :: cs => tokensAfter skipped cs
  | 0, c :: cs =>
    if c = ' ' || c = '\t' || c = '\n' then tokensAfter 0 cs
    else if isNameStart c then
      let more := cs.takeWhile isNameChar
      .name (c :: more) :: tokensAfter more.length cs
    else if c.isDigit then
      let (n, rest) := Numeral.integer (c :: cs)
      .number (Numeral.clamp (n.getD 0)) :: tokensAfter (cs.length - rest.length) cs
    else
      match operators.find? fun operator => operator.toList.isPrefixOf (c :: cs) with
      | some operator => .operator operator :: tokensAfter (operator.length - 1) cs
      | none => .unknown :: tokensAfter 0 cs

/-- The tokens of a text. -/
def tokens (text : Octets) : List Token :=
  tokensAfter 0 text

/-! ## Reading -/

/-- What reads an expression at the front of tokens.  Nothing is left after one that is broken
off. -/
abbrev Reader := List Token → Expression × List Token

/-- The operators with two operands, those that bind least first. -/
def levels : List (List (String × Operation)) :=
  [[("|", .bitOr)], [("^", .bitXor)], [("&", .bitAnd)],
    [("==", .equal), ("!=", .unequal)],
    [("<", .less), ("<=", .lessOrEqual), (">", .greater), (">=", .greaterOrEqual)],
    [("<<", .shiftLeft), (">>", .shiftRight)],
    [("+", .add), ("-", .subtract)],
    [("*", .multiply), ("/", .divide), ("%", .remainder)]]

/-- The inversion that an operator before an operand stands for; a plus sign stands for none. -/
def inversion? (operator : String) : Option (Option Inversion) :=
  match operator with
  | "+" => some none
  | "-" => some (some .negative)
  | "!" => some (some .isZero)
  | "~" => some (some .complement)
  | _ => none

/-- Reads a number, a name, an expression in parentheses, or one with an inversion before it. -/
def readPrimary (inner : Reader) : Reader
  | .number n :: rest => (.number n, rest)
  | .name name :: rest => (.name name, rest)
  | .operator "(" :: rest =>
    match inner rest with
    | (expression, .operator ")" :: rest) => (expression, rest)
    | (expression, _) => (.brokenAfter expression (.expecting "')'"), [])
  | .operator operator :: rest =>
    match inversion? operator with
    | none => (.broken (.expecting "primary"), [])
    | some none => readPrimary inner rest
    | some (some inversion) =>
      let (operand, rest) := readPrimary inner rest
      (.inverted inversion operand, rest)
  | _ => (.broken (.expecting "primary"), [])

/-- Reads the operators of one level and their right operands; a bound on their number is given. -/
def readChain (operand : Reader) (level : List (String × Operation)) : Nat → Expression → Reader
  | 0, left, tokens => (left, tokens)
  | bound + 1, left, tokens =>
    match tokens with
    | .operator operator :: rest =>
      match level.lookup operator with
      | some operation =>
        let (right, rest) := operand rest
        readChain operand level bound (.operated operation left right) rest
      | none => (left, tokens)
    | _ => (left, tokens)

/-- Reads operators of the given levels. -/
def readLevels (inner : Reader) : List (List (String × Operation)) → Reader
  | [], tokens => readPrimary inner tokens
  | level :: levels, tokens =>
    let (left, rest) := readLevels inner levels tokens
    readChain (readLevels inner levels) level tokens.length left rest

/-- Reads expressions that one operator joins, the last two first. -/
def readJoined (operand : Reader) (operator : String)
    (join : Expression → Expression → Expression) : Nat → Reader
  | 0, tokens => operand tokens
  | bound + 1, tokens =>
    match operand tokens with
    | (left, .operator found :: rest) =>
      if found = operator then
        let (right, rest) := readJoined operand operator join bound rest
        (join left right, rest)
      else (left, .operator found :: rest)
    | (left, rest) => (left, rest)

/-- Reads an expression without an assignment. -/
def readChoice (inner : Reader) : Nat → Reader
  | 0, _ => (.broken (.expecting "primary"), [])
  | bound + 1, tokens =>
    let length := tokens.length
    let both := readJoined (readLevels inner levels) "&&" .both length
    match readJoined both "||" .either length tokens with
    | (condition, .operator "?" :: rest) =>
      match inner rest with
      | (yes, .operator ":" :: rest) =>
        let (no, rest) := readChoice inner bound rest
        (.choice condition yes no, rest)
      | (yes, _) => (.choice condition yes (.broken (.expecting "':'")), [])
    | (condition, rest) => (condition, rest)

/-- The operators that assign, each with the operation it does first. -/
def assignments : List (String × Option Operation) :=
  [("=", none), ("*=", some .multiply), ("/=", some .divide), ("%=", some .remainder),
    ("+=", some .add), ("-=", some .subtract), ("<<=", some .shiftLeft),
    (">>=", some .shiftRight), ("&=", some .bitAnd), ("^=", some .bitXor), ("|=", some .bitOr)]

/-- Reads an expression; a bound on how deep it is nested is given. -/
def readAssignment : Nat → Reader
  | 0, _ => (.broken (.expecting "primary"), [])
  | bound + 1, tokens =>
    let inner := readAssignment bound
    let plain := readChoice inner tokens.length.succ tokens
    match tokens with
    | .name name :: .operator operator :: rest =>
      match assignments.lookup operator with
      | some operation =>
        let (value, rest) := inner rest
        (.assignment name operation value, rest)
      | none => plain
    | _ => plain

/-- The expression that a text spells. -/
def ofText (text : Octets) : Expression :=
  match readAssignment (text.length + 1) (tokens text) with
  | (expression, []) => expression
  | (expression, _) => .brokenAfter expression (.expecting "EOF")

/-- Where an expression is broken off, if it is. -/
def Expression.fault? : Expression → Option Fault
  | number _ => none
  | name _ => none
  | inverted _ operand => operand.fault?
  | operated _ left right => left.fault?.or right.fault?
  | both left right => left.fault?.or right.fault?
  | either left right => left.fault?.or right.fault?
  | choice condition yes no => (condition.fault?.or yes.fault?).or no.fault?
  | assignment _ _ value => value.fault?
  | broken fault => some fault
  | brokenAfter done fault => done.fault?.or (some fault)

/-! ## Values -/

/-- One for true and zero for false. -/
def truth (holds : Bool) : Int :=
  if holds then 1 else 0

/-- The bits of a number of 64 bits. -/
def bits (n : Int) : BitVec 64 :=
  BitVec.ofInt 64 n

/-- The number that an operation gives. -/
def Operation.apply (operation : Operation) (a b : Int) : Except Fault Int :=
  let places := (bits b).toNat % 64
  let quotient (n : Int) : Except Fault Int :=
    if b = 0 then .error .divisionByZero
    else if a = Numeral.least && b = -1 then .error .overflow
    else .ok n
  match operation with
  | multiply => .ok (Numeral.wrap (a * b))
  | divide => quotient (Int.tdiv a b)
  | remainder => quotient (Int.tmod a b)
  | add => .ok (Numeral.wrap (a + b))
  | subtract => .ok (Numeral.wrap (a - b))
  | shiftLeft => .ok (bits a <<< places).toInt
  | shiftRight => .ok ((bits a).sshiftRight places).toInt
  | less => .ok (truth (a < b))
  | lessOrEqual => .ok (truth (a ≤ b))
  | greater => .ok (truth (b < a))
  | greaterOrEqual => .ok (truth (b ≤ a))
  | equal => .ok (truth (a = b))
  | unequal => .ok (truth (a ≠ b))
  | bitAnd => .ok (bits a &&& bits b).toInt
  | bitXor => .ok (bits a ^^^ bits b).toInt
  | bitOr => .ok (bits a ||| bits b).toInt

/-- The number that an inversion gives. -/
def Inversion.apply (inversion : Inversion) (n : Int) : Int :=
  match inversion with
  | negative => Numeral.wrap (-n)
  | isZero => truth (n = 0)
  | complement => -n - 1

/-- The number that the value of a variable spells; a blank one spells zero. -/
def numberOf (value : Octets) : Except Fault Int :=
  match Numeral.integer value with
  | (none, rest) =>
    if (Numeral.skipSpaces rest).isEmpty then .ok 0 else .error (.illegalNumber value)
  | (some n, rest) =>
    if (Numeral.skipSpaces rest).isEmpty && Numeral.clamp n = n then .ok n
    else .error (.illegalNumber value)

/-- A value, or a fault, and the assignments that were made before it, the latest first. -/
abbrev Evaluation := ExceptT Fault (StateM (List (Octets × Int)))

/-- A value that was found without assignments. -/
def found : Except Fault Int → Evaluation Int
  | .ok n => pure n
  | .error fault => throw fault

/-- The number of a variable. -/
def valueOf (bindings : Octets → Option Octets) (name : Octets) : Evaluation Int := do
  match (← get).lookup name with
  | some n => pure n
  | none => found (numberOf ((bindings name).getD []))

/-- Passes over an expression without evaluating it; it must not be broken off. -/
def Expression.skip (expression : Expression) : Evaluation Unit :=
  match expression.fault? with
  | some fault => throw fault
  | none => pure ()

/-- The value of an expression, where the given variables have values. -/
def Expression.value (bindings : Octets → Option Octets) : Expression → Evaluation Int
  | number n => pure n
  | name known => valueOf bindings known
  | inverted inversion operand => return inversion.apply (← operand.value bindings)
  | operated operation left right => do
    let a ← left.value bindings
    let b ← right.value bindings
    found (operation.apply a b)
  | both left right => do
    if (← left.value bindings) = 0 then
      right.skip
      pure 0
    else return truth ((← right.value bindings) ≠ 0)
  | either left right => do
    if (← left.value bindings) ≠ 0 then
      right.skip
      pure 1
    else return truth ((← right.value bindings) ≠ 0)
  | choice condition yes no => do
    if (← condition.value bindings) ≠ 0 then
      let n ← yes.value bindings
      no.skip
      pure n
    else
      yes.skip
      no.value bindings
  | assignment known operation value => do
    let b ← value.value bindings
    let n ←
      match operation with
      | none => pure b
      | some operation => found (operation.apply (← valueOf bindings known) b)
    modify ((known, n) :: ·)
    pure n
  | broken fault => throw fault
  | brokenAfter done fault => do
    let _ ← done.value bindings
    throw fault

/-- The value of the expression that a text spells, and the assignments made before it was found,
the first one first. -/
def evaluate (bindings : Octets → Option Octets) (text : Octets) :
    Except Fault Int × List (Octets × Int) :=
  let (value, assigned) := Id.run (((ofText text).value bindings).run.run [])
  (value, assigned.reverse)

end Arithmetic

end Shell

end KernelCensus
