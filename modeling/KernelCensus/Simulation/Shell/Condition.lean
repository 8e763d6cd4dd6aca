/-
# Conditions

A condition is spelled by words: tests of texts, numbers and files, joined by `!`, `-a`, `-o` and
parentheses.  A word that could be an operator is an operand where an operator makes no sense.
-/
import KernelCensus.Simulation.Opening
import KernelCensus.Simulation.Number.Numeral

namespace KernelCensus

namespace Shell

namespace Condition

/-! ## Words -/

/-- What a word is for. -/
inductive Role
  | finish
  | operand
  | unary
  | binary
  | negation
  | conjunction
  | disjunction
  | opening
  | closing
  deriving DecidableEq, Repr

/-- The tests of one operand. -/
def unaries : List String :=
  ["-r", "-w", "-x", "-e", "-f", "-d", "-c", "-b", "-p", "-u", "-g", "-k", "-s", "-t", "-z",
    "-n", "-h", "-L", "-O", "-G", "-S"]

/-- The tests of two operands. -/
def binaries : List String :=
  ["=", "!=", "<", ">", "-eq", "-ne", "-ge", "-gt", "-le", "-lt", "-nt", "-ot", "-ef"]

/-- The role of a word as an operator, if it can be one. -/
def operator? (word : Octets) : Option Role :=
  let text := String.ofList word
  if unaries.contains text then some .unary
  else if binaries.contains text then some .binary
  else
    match text with
    | "!" => some .negation
    | "-a" => some .conjunction
    | "-o" => some .disjunction
    | "(" => some .opening
    | ")" => some .closing
    | _ => none

/-- Whether a test of one operand makes no sense before these words. -/
def isOperandBefore : List Octets → Bool
  | [] => true
  | [_] => false
  | word :: _ => operator? word = some .binary

/-- The role of the first word. -/
def role : List Octets → Role
  | [] => .finish
  | word :: rest =>
    match operator? word with
    | none => .operand
    | some .unary => if isOperandBefore rest then .operand else .unary
    | some .opening => if rest.isEmpty then .operand else .opening
    | some role => role

/-! ## Tests -/

/-- Complains of an operator. -/
def fault {α : Type} (operator : Octets) (what : String) : Except Octets α :=
  .error ((if operator.isEmpty then [] else operator ++ ": ".toList) ++ what.toList)

/-- The number that a word spells in decimal digits. -/
def number (word : Octets) : Except Octets Int :=
  let (negative, unsigned) := Numeral.sign (Numeral.skipSpaces word)
  let ds := Numeral.digits 10 unsigned
  let size : Int := Numeral.valueOf 10 ds
  let n := if negative then -size else size
  let rest := Numeral.skipSpaces (unsigned.drop ds.length)
  if ds.isEmpty || !rest.isEmpty || Numeral.clamp n ≠ n then
    .error ("Illegal number: ".toList ++ word)
  else .ok n

/-- How files are looked at that are tested: where a path leads, with or without following a last
link, and how new what is at a location is. -/
structure Place where
  look : World.Look
  beside : Octets → Option FileTree
  newness : List EntryName → Nat

/-- The location of what a path leads to, if something is there. -/
def Place.location? (place : Place) (path : Octets) : Option (List EntryName) :=
  (place.look path).toOption.map Prod.fst

/-- What a path leads to. -/
def Place.thing? (place : Place) (path : Octets) : Option FileTree :=
  (place.look path).toOption.map Prod.snd

/-- The directories in which only the owner of a file may remove it. -/
def stickyPlaces : List (List EntryName) :=
  [["tmp"], ["var", "tmp"], ["dev", "shm"]].map (·.map Utf8.encode)

/-- Whether the first of two paths leads to something that is newer than what the second one leads
to. -/
def Place.isNewer (place : Place) (left right : Octets) : Bool :=
  match place.location? left, place.location? right with
  | some a, some b => place.newness b < place.newness a
  | _, _ => false

/-- Whether a path leads to a symbolic link. -/
def Place.isLink (place : Place) (path : Octets) : Bool :=
  match place.beside path with
  | some (.link _) => true
  | some (.pipe _) => true
  | _ => false

/-- A test of one operand. -/
def testOne (place : Place) (operator operand : Octets) : Except Octets Bool := do
  let thing := place.thing? operand
  let isThere := thing.isSome
  match String.ofList operator with
  | "-z" => .ok operand.isEmpty
  | "-n" => .ok (!operand.isEmpty)
  | "-t" => do
    let _ ← number operand
    .ok false
  | "-h" => .ok (place.isLink operand)
  | "-L" => .ok (place.isLink operand)
  | "-f" =>
    match thing with
    | some (.file _) => .ok true
    | some (.executable _) => .ok true
    | some (.record _ _) => .ok true
    | _ => .ok false
  | "-d" =>
    match thing with
    | some (.dir _) => .ok true
    | _ => .ok false
  | "-c" =>
    match thing with
    | some (.device _) => .ok true
    | _ => .ok false
  | "-p" =>
    match thing with
    | some (.pipe _) => .ok true
    | _ => .ok false
  | "-x" =>
    match thing with
    | some (.dir _) => .ok true
    | some (.executable _) => .ok true
    | _ => .ok false
  | "-s" =>
    match thing with
    | some (.file content) => .ok (!content.isEmpty)
    | some (.device _) => .ok false
    | some (.pipe _) => .ok false
    | some (.record _ _) => .ok false
    | _ => .ok isThere
  | "-k" => .ok ((place.location? operand).any stickyPlaces.contains)
  | text => .ok (["-e", "-r", "-w", "-O", "-G"].contains text && isThere)

/-- A test of two operands. -/
def testTwo (place : Place) (operator left right : Octets) : Except Octets Bool := do
  let compare (holds : Int → Int → Bool) : Except Octets Bool := do
    let a ← number left
    let b ← number right
    .ok (holds a b)
  match String.ofList operator with
  | "=" => .ok (left == right)
  | "!=" => .ok (left != right)
  | "<" => .ok (decide (left < right))
  | ">" => .ok (decide (right < left))
  | "-eq" => compare (· == ·)
  | "-ne" => compare (· != ·)
  | "-ge" => compare fun a b => decide (b ≤ a)
  | "-gt" => compare fun a b => decide (b < a)
  | "-le" => compare fun a b => decide (a ≤ b)
  | "-lt" => compare fun a b => decide (a < b)
  | "-nt" => .ok (place.isNewer left right)
  | "-ot" => .ok (place.isNewer right left)
  | "-ef" =>
    match place.location? left, place.location? right with
    | some a, some b => .ok (a == b)
    | _, _ => .ok false
  | _ => .ok false

/-! ## Conditions -/

/-- Whether a condition holds, and the words from its last one on. -/
abbrev Verdict := Except Octets (Bool × List Octets)

/-- A condition without `-a` and `-o`, whose first word has the given role; `inner` decides what
stands in parentheses. -/
def decidePrimary (place : Place) (inner : Role → List Octets → Verdict) (first : Role)
    (words : List Octets) : Verdict :=
  match first, words with
  | .finish, _ => .ok (false, words)
  | _, [] => .ok (false, [])
  | .opening, _ :: rest =>
    if role rest = .closing then .ok (false, rest)
    else do
      let (holds, last) ← inner (role rest) rest
      if role last.tail = .closing then .ok (holds, last.tail)
      else fault [] "closing paren expected"
  | .unary, operator :: rest =>
    match rest with
    | [] => fault operator "argument expected"
    | operand :: _ => return (← testOne place operator operand, rest)
  | _, left :: rest =>
    if role rest = .binary then
      match rest with
      | operator :: right :: more =>
        return (← testTwo place operator left right, right :: more)
      | operator :: [] => fault operator "argument expected"
      | [] => .ok (!left.isEmpty, words)
    else .ok (!left.isEmpty, words)

/-- A condition that may be negated; a bound on the number of negations is given. -/
def decideNegated (place : Place) (inner : Role → List Octets → Verdict) :
    Nat → Role → List Octets → Verdict
  | 0, _, words => .ok (false, words)
  | bound + 1, first, words =>
    if first = .negation then do
      let next := role words.tail
      let words := if next = .finish then words else words.tail
      let (holds, last) ← decideNegated place inner bound next words
      .ok (!holds, last)
    else decidePrimary place inner first words

/-- Conditions joined by an operator; all or some of them must hold. -/
def decideJoined (joint : Role) (all : Bool) (part : Role → List Octets → Verdict) :
    Nat → Bool → Role → List Octets → Verdict
  | 0, holds, _, words => .ok (holds, words)
  | bound + 1, before, first, words => do
    let (holds, last) ← part first words
    let holds := if all then before && holds else before || holds
    if role last.tail = joint then
      let next := last.tail.tail
      decideJoined joint all part bound holds (role next) next
    else .ok (holds, last)

/-- A condition; a bound on how deep parentheses are nested is given. -/
def decideAny (place : Place) : Nat → Role → List Octets → Verdict
  | 0, _, words => .ok (false, words)
  | bound + 1, first, words =>
    let length := words.length + 1
    let negated := decideNegated place (decideAny place bound) length
    let conjunction := decideJoined .conjunction true negated length true
    decideJoined .disjunction false conjunction length false first words

/-- Whether words that are not too many hold, where the first has the given role. -/
def decideWhole (place : Place) (first : Role) (words : List Octets) : Except Octets Bool := do
  let (holds, last) ← decideAny place (words.length + 1) first words
  match last with
  | word :: _ :: _ => fault word "unexpected operator"
  | _ => .ok holds

/-- Whether the condition that words spell holds.  Up to four words, parentheses around all and a
leading `!` come first. -/
def holds (place : Place) : List Octets → Except Octets Bool
  | [] => .ok false
  | word :: rest =>
    let words := word :: rest
    let isComparison := words.length = 3 && (rest.head?.bind operator?) = some .binary
    if isComparison then decideWhole place .operand words
    else if words.length = 3 || words.length = 4 then
      if word = ['('] && words.getLast? = some [')'] then
        decideWhole place (role rest.dropLast) rest.dropLast
      else if word = ['!'] then do
        return !(← holds place rest)
      else decideWhole place (role words) words
    else decideWhole place (role words) words

end Condition

end Shell

end KernelCensus
