/-
# Builtins for variables

Variables are exported, fixed, unset and made local; options are set; and the positional
parameters are set, shifted and looked at for options.
-/
import KernelCensus.Simulation.Shell.Builtin.Basic

namespace KernelCensus

namespace Shell

/-! ## Listing -/

/-- Names with what they stand for, in the order of the names. -/
def sortedByName {α : Type} (rows : List (Octets × α)) : List (Octets × α) :=
  rows.mergeSort fun a b => Octets.isAtMost a.1 b.1

/-- Lists variables as commands that set them again; `command` is empty or a word. -/
def showVariables (command : Octets) (shown : Variable → Bool) : Run Nat := do
  let rows := sortedByName ((← get).bindings.filter fun (_, known) => shown known)
  let front := if command.isEmpty then [] else command ++ [' ']
  answer <| linesOf <| rows.map fun (name, known) =>
    match known.value with
    | some value => front ++ name ++ ['='] ++ quoteWord value
    | none => front ++ name

/-! ## Changing variables -/

/-- The name before an equals sign, and the value after it. -/
def splitAssignment (argument : Octets) : Octets × Option Octets :=
  let name := argument.takeWhile (· ≠ '=')
  match argument.drop name.length with
  | [] => (name, none)
  | _ :: value => (name, some value)

/-- The name at the front of a text, up to an equals sign; what is no name is refused. -/
def variableName (text : Octets) : Run Octets := do
  let (name, _) := splitAssignment text
  if isName name then pure name else fail (name ++ ": bad variable name".toList)

/-- Changes what a variable is allowed, and perhaps its value. -/
def declare (change : Variable → Variable) (argument : Octets) : Run Unit := do
  let name ← variableName argument
  match (splitAssignment argument).2 with
  | some value => assign name value
  | none => pure ()
  modify fun state => state.putVariable name (change (state.variable name))

/-- Declares variables, or lists those that are declared like this. -/
def declareAll (command : String) (change : Variable → Variable) (shown : Variable → Bool)
    (arguments : List Octets) : Run Nat := do
  let (option, names) ← takeFlag "p" arguments
  if option.isNone && !names.isEmpty then
    names.forM (declare change)
    pure 0
  else showVariables command.toList shown

/-- Exports variables to programs. -/
def exportNames : List Octets → Run Nat :=
  declareAll "export" (fun known => { known with exported := true }) (·.exported)

/-- Fixes variables. -/
def fixNames : List Octets → Run Nat :=
  declareAll "readonly" (fun known => { known with fixed := true }) (·.fixed)

/-- Unsets a variable; the one for options needs a number. -/
def unsetVariable (name : Octets) : Run Unit := do
  requireLoose name
  if name = optionVariable then let _ ← wholeNumber []
  modify fun state =>
    { state with bindings := Table.erase name state.bindings }.noteChange name

/-- Unsets variables or functions. -/
def unsetNames (arguments : List Octets) : Run Nat := do
  let (options, names) ← takeOptions "vf" "" arguments
  let functions := (options.getLast?.map Prod.fst) = some 'f'
  names.forM fun name => do
    if functions then
      modify fun state => { state with functions := Table.erase name state.functions }
    else unsetVariable (← variableName name)
  pure 0

/-- Makes variables local to the function that was entered last; `-` does so with options.  What is
given a value may have any name, which is refused when the function ends. -/
def localNames (arguments : List Octets) : Run Nat := do
  if (← get).frames.isEmpty then fail "not in a function".toList
  arguments.forM fun argument => do
    if argument = ['-'] then makeOptionsLocal
    else
      match splitAssignment argument with
      | (name, some value) =>
        makeLocal name
        assign name value
      | (name, none) => makeLocal (← variableName name)
  pure 0

/-! ## Options -/

/-- A text with blanks after it up to a width. -/
def padded (width : Nat) (text : Octets) : Octets :=
  text ++ List.replicate (width - text.length) ' '

/-- Lists the options: for reading, or as commands that set them again. -/
def showOptions (readable : Bool) : Run Nat := do
  let state ← get
  let rows := optionLetters.map fun (option, _) =>
    let on := state.isOn option || state.unsaid.contains option
    if readable then padded 16 option.toList ++ (if on then "on" else "off").toList
    else "set ".toList ++ (if on then "-o " else "+o ").toList ++ option.toList
  answer (linesOf (if readable then "Current option settings".toList :: rows else rows))

/-- Turns the option of a letter on or off; of two ways to edit lines, one turns the other off. -/
def turnLetter (on : Bool) (c : Char) : Run Unit := do
  match optionLetters.find? fun (_, letter) => letter = some c with
  | some (option, _) =>
    modify fun state => state.turn option on
    if on && c = 'V' then modify fun state => state.turn "emacs" false
    if on && c = 'E' then modify fun state => state.turn "vi" false
  | none => illegalOption [c]

/-- Turns options of letters on or off; `o` takes a name from the arguments left.  Other letters
may be told apart. -/
def turnLetters (on : Bool) (others : List Char) : List Char → List Octets →
    Run (List Char × List Octets)
  | [], rest => pure ([], rest)
  | 'o' :: cs, rest => do
    match rest with
    | [] =>
      let _ ← showOptions on
      turnLetters on others cs []
    | name :: rest =>
      if (optionLetters.lookup (String.ofList name)).isSome then
        modify fun state => state.turn (String.ofList name) on
        turnLetters on others cs rest
      else illegalOption ("o ".toList ++ name)
  | c :: cs, rest => do
    if others.contains c then
      let (found, rest) ← turnLetters on others cs rest
      pure (c :: found, rest)
    else
      turnLetter on c
      turnLetters on others cs rest

/-- How options end: nothing more, a lone dash, or two dashes, and the arguments after them. -/
inductive Operands
  | plain (operands : List Octets)
  | dash (operands : List Octets)
  | dashes (operands : List Octets)

/-- The arguments after options. -/
def Operands.list : Operands → List Octets
  | plain operands => operands
  | dash operands => operands
  | dashes operands => operands

/-- Turns the options at the front of arguments on or off; gives the letters that were told apart,
and the arguments left.  A bound on their number is given. -/
def turnOptions (others : List Char) : Nat → List Octets → Run (List Char × Operands)
  | 0, arguments => pure ([], .plain arguments)
  | bound + 1, arguments => do
    let cluster (on : Bool) (cs : List Char) (rest : List Octets) :
        Run (List Char × Operands) := do
      let (found, rest) ← turnLetters on others cs rest
      let (more, rest) ← turnOptions others bound rest
      pure (found ++ more, rest)
    match arguments with
    | ['-'] :: rest => pure ([], .dash rest)
    | ['-', '-'] :: rest => pure ([], .dashes rest)
    | ('-' :: cs) :: rest => cluster true cs rest
    | ('+' :: cs) :: rest => cluster false cs rest
    | _ => pure ([], .plain arguments)

/-- Job control needs a terminal, and there is none: the option for it does not stay on, but for
copies of a shell, which do not try. -/
def refuseJobControl : Run Unit := do
  let state ← get
  if state.isOn "monitor" && !state.isCopy then
    modify fun state => state.turn "monitor" false
    complain "can't access tty; job control turned off".toList

/-- Sets options and positional parameters, or lists the variables. -/
def setParameters (arguments : List Octets) : Run Nat := do
  if arguments.isEmpty then showVariables [] (·.value.isSome)
  else
    let (_, operands) ← turnOptions [] (arguments.length + 1) arguments
    match operands with
    | .dashes positional => modify fun state => { state with positional }.lookFrom 1
    | .dash _ => modify fun state => (state.turn "xtrace" false).turn "verbose" false
    | .plain _ => pure ()
    if !operands.list.isEmpty then
      modify fun state => { state with positional := operands.list }.lookFrom 1
    refuseJobControl
    pure 0

/-! ## Positional parameters -/

/-- Drops the first parameters. -/
def shiftParameters (arguments : List Octets) : Run Nat := do
  let count ←
    match arguments with
    | [] => pure 1
    | argument :: _ => wholeNumber argument
  let state ← get
  if state.positional.length < count then fail "can't shift that many".toList
  set ({ state with positional := state.positional.drop count }.lookFrom 1)
  pure 0

/-- What looking for the next option finds: the letter, unless there are no more options; what its
argument is to be, if that changes; a complaint; and where the next look starts. -/
structure Sighting where
  letter : Option Char := none
  argument : Option (Option Octets) := none
  complaint : Option Octets := none
  number : Nat
  place : Option Nat := none

/-- What follows a letter in the letters of options, each of which may have a colon after it. -/
def afterLetter? (c : Char) : Octets → Option Octets
  | [] => none
  | letter :: ':' :: rest => if letter = c then some (':' :: rest) else afterLetter? c rest
  | letter :: rest => if letter = c then some rest else afterLetter? c rest

/-- The rest of the options in the word before a number, from a place in it on. -/
def restOfCluster (words : List Octets) (number : Nat) (place : Option Nat) : Octets :=
  match place with
  | some place => if number ≤ 1 then [] else ((words[number - 2]?).getD []).drop place
  | none => []

/-- The letter of an option at the front of a cluster, or what is wrong with it; the rest of the
cluster is given, and the number of the next word. -/
def sightLetter (letters : Octets) (words : List Octets) (c : Char) (rest : Octets) (number : Nat) :
    Sighting :=
  let silent := letters.head? = some ':'
  let refuse (letter : Char) (complaint : String) (place : Option Nat) : Sighting :=
    if silent then { letter := some letter, argument := some (some [c]), number, place }
    else
      { letter := some '?'
        argument := some none
        complaint := some (complaint.toList.map fun d => if d = '%' then c else d)
        number
        place }
  let place := ((words[number - 2]?).getD []).length - rest.length
  match afterLetter? c letters with
  | none => refuse '?' "Illegal option -%" (some place)
  | some (':' :: _) =>
    match rest, words[number - 1]? with
    | _ :: _, _ => { letter := some c, argument := some (some rest), number }
    | [], some word => { letter := some c, argument := some (some word), number := number + 1 }
    | [], none => refuse ':' "No arg for -% option" none
  | some _ => { letter := some c, argument := some (some []), number, place := some place }

/-- The next option in words, from the word of a number on and from a place in the word before it.
-/
def sight (letters : Octets) (words : List Octets) (number : Nat) (place : Option Nat) : Sighting :=
  match restOfCluster words number place with
  | c :: rest => sightLetter letters words c rest number
  | [] =>
    match words[number - 1]? with
    | some ['-', '-'] => { number := number + 1 }
    | some ('-' :: c :: rest) => sightLetter letters words c rest (number + 1)
    | _ => { number }

/-- The number that no look starts from. -/
def nowhere : Nat := 4294967295

/-- Looks for the next option among parameters.  A look that fails lets the next one start anew. -/
def nextOption (arguments : List Octets) : Run Nat := do
  match arguments with
  | letters :: name :: given =>
    let { positional, .. } ← get
    let words := if given.isEmpty then positional else given
    if words.length + 1 < (← get).optionNumber then modify (·.lookFrom 1)
    let { optionNumber, optionPlace, .. } ← get
    modify fun state => { state with optionNumber := nowhere }
    let sighting := sight letters words optionNumber optionPlace
    match sighting.complaint with
    | some complaint => mutter complaint
    | none => pure ()
    match sighting.argument with
    | some (some argument) => assign "OPTARG".toList argument
    | some none => unsetVariable "OPTARG".toList
    | none => pure ()
    assignOnly optionVariable (Octets.ofNat sighting.number)
    assign (← variableName name) [sighting.letter.getD '?']
    modify fun state =>
      { state with optionNumber := sighting.number, optionPlace := sighting.place }
    pure (if sighting.letter.isSome then 0 else 1)
  | _ => fail "Usage: getopts optstring var [arg...]".toList

end Shell

end KernelCensus
