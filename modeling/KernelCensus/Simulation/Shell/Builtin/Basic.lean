/-
# Builtins

A builtin runs in the shell itself, with arguments, and gives an exit code.  A special builtin
that fails ends the shell; any other gives the exit code 2.
-/
import KernelCensus.Simulation.Shell.Redirection

namespace KernelCensus

namespace Shell

/-- Where a script comes from: it is a text, or is read from a stream or from the standard input,
which is what it refers to whenever more is read. -/
inductive Source
  | text (text : Octets)
  | stream (number : Nat)
  | standard

/-- Whether a script is read as it is run. -/
def Source.isRead : Source → Bool
  | text _ => false
  | stream _ | standard => true

/-- The stream that more of a script would be read from. -/
def Source.stream? : Source → Run (Option Nat)
  | text _ => pure none
  | stream number => pure (some number)
  | standard => return (← get).descriptors.lookup 0

/-- What a command is to those around it: whether its failure is tested for, and whether nothing
comes after it in its process. -/
structure Role where
  tested : Bool := false
  last : Bool := false

/-- The role of a command inside another one, after which more may come. -/
def Role.inner (role : Role) : Role :=
  { role with last := false }

/-- The role of a command that is a condition. -/
def Role.condition : Role :=
  { tested := true }

/-- What the parts of a shell need of each other: running commands and scripts, where failures
are tested for or not, and starting programs.  A script gives the exit code of its last command,
or zero if there is none. -/
structure Evaluator where
  command : Role → Command → Run Unit
  script : Bool → Source → Run Nat
  launch : Program → Invocation → Job ExitStatus

/-- A builtin: whether it is special, whether it is found before programs whatever the search path
says, whether its arguments may be assignments, and what it does when failures are tested for or
not. -/
structure Builtin where
  isSpecial : Bool := false
  isRegular : Bool := true
  assigns : Bool := false
  run : Evaluator → Bool → List Octets → Run Nat

/-- A builtin that needs nothing but its arguments. -/
def Builtin.plain (run : List Octets → Run Nat) : Builtin :=
  { run := fun _ _ arguments => run arguments }

/-- A builtin that needs nothing but its arguments, and that programs may come before. -/
def Builtin.replaceable (run : List Octets → Run Nat) : Builtin :=
  { Builtin.plain run with isRegular := false }

/-- A special builtin that needs nothing but its arguments. -/
def Builtin.special (run : List Octets → Run Nat) : Builtin :=
  { isSpecial := true, run := fun _ _ arguments => run arguments }

/-! ## Arguments -/

/-- Complains of an option that there is none of. -/
def illegalOption {α : Type} (option : Octets) : Run α :=
  fail ("Illegal option -".toList ++ option)

/-- The options in a cluster of letters, and the arguments left; `valued` letters take the rest of
the cluster or the next argument. -/
def takeCluster (flags valued : List Char) : List Char → List Octets →
    Run (List (Char × Octets) × List Octets)
  | [], rest => pure ([], rest)
  | c :: cs, rest => do
    if flags.contains c then
      let (options, rest) ← takeCluster flags valued cs rest
      pure ((c, []) :: options, rest)
    else if valued.contains c then
      match cs, rest with
      | _ :: _, _ => pure ([(c, cs)], rest)
      | [], value :: rest => pure ([(c, value)], rest)
      | [], [] => fail ("No arg for -".toList ++ [c] ++ " option".toList)
    else illegalOption [c]

/-- The options at the front of arguments, and the operands; a bound on their number is given. -/
def takeOptionsUpTo (flags valued : List Char) : Nat → List Octets →
    Run (List (Char × Octets) × List Octets)
  | 0, arguments => pure ([], arguments)
  | bound + 1, arguments => do
    match arguments with
    | ['-', '-'] :: rest => pure ([], rest)
    | ('-' :: c :: cs) :: rest =>
      let (options, rest) ← takeCluster flags valued (c :: cs) rest
      let (more, rest) ← takeOptionsUpTo flags valued bound rest
      pure (options ++ more, rest)
    | _ => pure ([], arguments)

/-- The options at the front of arguments, and the operands. -/
def takeOptions (flags : String) (valued : String) (arguments : List Octets) :
    Run (List (Char × Octets) × List Octets) :=
  takeOptionsUpTo flags.toList valued.toList (arguments.length + 1) arguments

/-- The first option among flags, if there is one, and the operands where there is none. -/
def takeFlag (flags : String) : List Octets → Run (Option Char × List Octets)
  | ['-', '-'] :: rest => pure (none, rest)
  | ('-' :: c :: _) :: rest =>
    if flags.toList.contains c then pure (some c, rest) else illegalOption [c]
  | arguments => pure (none, arguments)

/-! ## Answers -/

/-- Holds some text that is printed when the builtin is done, after its complaints. -/
def answer (text : Octets) : Run Nat := do
  modify fun state => { state with held := state.held ++ text }
  pure 0

/-- Prints what a builtin held, and says whether that was possible. -/
def release : Run Bool := do
  let { held, .. } ← get
  modify fun state => { state with held := [] }
  if held.isEmpty then pure true else put 1 held

/-- Lines, each with its end. -/
def linesOf (lines : List Octets) : Octets :=
  lines.flatMap (· ++ ['\n'])

/-- A text in quotes, so that it reads back as one word. -/
def quoteWord (text : Octets) : Octets :=
  go (text.length + 1) text
where
  go : Nat → Octets → Octets
    | 0, _ => []
    | bound + 1, text =>
      let plain := text.takeWhile (· ≠ '\'')
      let rest := text.drop plain.length
      let marks := rest.takeWhile (· = '\'')
      let more := rest.drop marks.length
      let front := ['\''] ++ plain ++ ['\'']
      if marks.isEmpty then front
      else
        let front := front ++ ['"'] ++ marks ++ ['"']
        if more.isEmpty then front else front ++ go bound more

end Shell

end KernelCensus
