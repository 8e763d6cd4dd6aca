/-
# Builtins for text

`echo` and `printf` print, `read` reads a line into variables, and `test` decides a condition.
-/
import KernelCensus.Simulation.Shell.Builtin.Variables
import KernelCensus.Simulation.Utility.Echo
import KernelCensus.Simulation.Utility.Format

namespace KernelCensus

namespace Shell

/-! ## Printing -/

/-- The escapes that are always on in `echo`, and in arguments of `printf` printed with escapes. -/
def echoEscapes : Escaped.Dialect :=
  { extraZero := true, ends := true, mark := false, hexadecimal := false, characters := false }

/-- Prints its arguments; only a leading `-n` is an option. -/
def echo (arguments : List Octets) : Run Nat :=
  match arguments with
  | ['-', 'n'] :: words => answer (Echo.line words (some echoEscapes) false)
  | words => answer (Echo.line words (some echoEscapes) true)

/-- The formats of the builtin `printf`. -/
def formats : Format.Dialect :=
  { escapes := { echoEscapes with extraZero := false, ends := false }
    argumentEscapes := echoEscapes
    escapesPercent := false
    extended := false
    endsWell := false
    form := ⟨53, 1024⟩
    notNumeric := fun text => text ++ ": expected numeric value".toList
    notWhole := fun text => text ++ ": not completely converted".toList
    outOfRange := fun text => text ++ ": Numerical result out of range".toList
    rangeFirst := false
    notAlone := none
    tooLarge := none
    badDirective := fun text => text ++ ": invalid directive".toList
    unfinished := fun _ => "missing format character".toList
    badCode := 2
    unfit := some "xvsnprintf failed".toList }

/-- Prints its first argument as a format for the others. -/
def printf (arguments : List Octets) : Run Nat := do
  let (_, operands) ← takeOptions "" "" arguments
  match operands with
  | [] => fail "usage: printf format [arg ...]".toList
  | format :: arguments =>
    let progress := Format.print formats format arguments
    let outputs := progress.outputs.reverse
    outputs.forM fun output =>
      match output with
      | .complaint text => complain text
      | _ => pure ()
    let text := outputs.flatMap fun output =>
      match output with
      | .text text => text
      | .bytes bytes => bytes
      | _ => []
    let _ ← answer text
    pure progress.code

/-! ## Reading -/

/-- The atoms of the line at the front of a text, and how many bytes it takes.  Unless it is raw, a
backslash quotes the character after it, and takes a line end away; nothing is given for a line
without an end. -/
def lineAtoms (raw : Bool) : Octets → List Atom × Nat × Bool
  | [] => ([], 0, false)
  | '\n' :: _ => ([], 1, true)
  | '\\' :: c :: cs =>
    if raw then
      let (atoms, length, ended) := lineAtoms raw (c :: cs)
      (.char '\\' .result :: atoms, length + 1, ended)
    else
      let (atoms, length, ended) := lineAtoms raw cs
      (if c = '\n' then atoms else .char c .quoted :: atoms, length + 2, ended)
  | c :: cs =>
    let (atoms, length, ended) := lineAtoms raw cs
    let keeps := c ≠ '\x00' && (raw || c ≠ '\\')
    (if keeps then .char c .result :: atoms else atoms, length + 1, ended)

/-- Gives variables the texts of fields, and nothing where there are too few. -/
def assignFields : List Octets → List (List Atom) → Run Unit
  | [], _ => pure ()
  | name :: names, fields => do
    match fields with
    | [] =>
      assign (← variableName name) []
      assignFields names []
    | field :: fields =>
      assign (← variableName name) (textOf field)
      assignFields names fields

/-- Reads a line into variables. -/
def readInto (arguments : List Octets) : Run Nat := do
  let (options, names) ← takeOptions "r" "p" arguments
  let raw := options.any fun (option, _) => option == 'r'
  if names.isEmpty then fail "arg count".toList
  let state ← get
  let (atoms, _, ended) ← onWorld do
    let stream ← state.self.stream 0
    let line ← Invocation.take stream fun bytes => bytes.take (lineAtoms raw bytes).2.1
    let found := lineAtoms raw (line.toOption.getD [])
    if !found.2.2 then Invocation.await stream
    pure found
  assignFields names (cutFields state.separators (some names.length) atoms)
  pure (if ended then 0 else 1)

/-! ## Testing -/

/-- Decides the condition that its arguments spell. -/
def test (arguments : List Octets) : Run Nat := do
  let state ← get
  let world ← onWorld get
  let place : Condition.Place :=
    ⟨world.look state.self, world.lookBeside state.self, world.newness⟩
  match Condition.holds place arguments with
  | .ok holds => pure (if holds then 0 else 1)
  | .error fault => fail fault

/-- Decides a condition between brackets; the last word starts with the closing one. -/
def bracket (arguments : List Octets) : Run Nat :=
  if (arguments.getLast?.bind List.head?) = some ']' then test arguments.dropLast
  else fail "missing ]".toList

end Shell

end KernelCensus
