/-
# Expanding words

In a word, parameters, substitutions and arithmetic are replaced by their values.  Where a list of
words is wanted, what was put in is cut into fields, and fields that hold patterns are replaced by
the paths that match.
-/
import KernelCensus.Simulation.Account
import KernelCensus.Simulation.Shell.Arithmetic
import KernelCensus.Simulation.Shell.Paths
import KernelCensus.Simulation.Shell.State
import KernelCensus.Simulation.Shell.Trim

namespace KernelCensus

namespace Shell

/-! ## Parameters -/

/-- What a parameter stands for: a text, or all the positional parameters. -/
inductive Value
  | one (text : Octets)
  | all

/-- The letters of the options that are on, the last one first. -/
def State.letters (state : State) : Octets :=
  (optionLetters.filterMap fun (option, letter) =>
    if state.isOn option then letter else none).reverse

/-- The value of a parameter, if it has one. -/
def State.parameter? (state : State) (name : Octets) : Option Value :=
  match name with
  | ['@'] => some .all
  | ['*'] => some .all
  | ['#'] => some (.one (Octets.ofNat state.positional.length))
  | ['?'] => some (.one (Octets.ofNat state.status))
  | ['$'] => some (.one (Octets.ofNat state.process))
  | ['!'] => state.lastProcess.map fun process => .one (Octets.ofNat process)
  | ['-'] => some (.one state.letters)
  | _ =>
    if name.all Char.isDigit then
      match Numeral.valueOf 10 name with
      | 0 => some (.one state.name)
      | place + 1 => (state.positional[place]?).map .one
    else (state.value? name).map .one

/-- The positional parameters as one text, with the first separator between them. -/
def State.joined (state : State) : Octets :=
  let separator :=
    match state.value? "IFS".toList with
    | none => [' ']
    | some text => text.take 1
  Octets.join separator state.positional

/-- The text of a value. -/
def State.text (state : State) : Value → Octets
  | .one text => text
  | .all => state.joined

/-- Texts with borders between them; each may be marked so that it is a field of its own. -/
def bordered (origin : Origin) (soft : Bool) : List Octets → List Atom
  | [] => []
  | text :: texts =>
    let front := if soft then atomsOf origin text else .mark :: atomsOf origin text
    match texts with
    | [] => front
    | _ :: _ => front ++ .border soft :: bordered origin soft texts

/-- Where a character comes from that is put in. -/
def originOf (quoted : Bool) : Origin :=
  if quoted then .quoted else .result

/-- Whether all the positional parameters stay apart where this parameter stands. -/
def staysApart (name : Octets) (cuts quoted : Bool) : Bool :=
  cuts && (!quoted || name = ['@'])

/-- The atoms of a value, where fields are cut or not. -/
def State.atoms (state : State) (name : Octets) (cuts quoted : Bool) : Value → List Atom
  | .one text => atomsOf (originOf quoted) text
  | .all =>
    if staysApart name cuts quoted then bordered (originOf quoted) (!quoted) state.positional
    else atomsOf (originOf quoted) state.joined

/-- The atoms of a value of which a part was cut off that a pattern matches. -/
def State.cutAtoms (state : State) (name : Octets) (cuts quoted : Bool) (cut : Cut)
    (pattern : List Atom) (value : Value) : List Atom :=
  let isSeveral :=
    match value with
    | .one _ => false
    | .all => staysApart name cuts quoted
  if isSeveral then
    bordered (originOf quoted) (!quoted) (cut.applyAll quoted pattern state.positional)
  else atomsOf (originOf quoted) (cut.apply (glyphsOf pattern) (state.text value))

/-! ## Tildes -/

/-- The home directory of a user; no name stands for the own one. -/
def State.home? (state : State) (user : Octets) : Option Octets :=
  if user.isEmpty then state.value? "HOME".toList
  else Account.home? Account.usual user

/-- The name after a tilde at the front of a word, and the rest of the word.  The name ends before a
slash, and nothing of it is quoted. -/
def tilde? : Word → Option (Octets × Word)
  | .char '~' false :: word => name? word
  | _ => none
where
  name? : Word → Option (Octets × Word)
    | [] => some ([], [])
    | .char '/' false :: rest => some ([], .char '/' false :: rest)
    | .char c false :: rest => (name? rest).map fun (name, rest) => (c :: name, rest)
    | _ => none

/-- A word with a home directory put in for a tilde at its front. -/
def putHome (home? : Octets → Option Octets) (word : Word) : Word :=
  match tilde? word with
  | none => word
  | some (user, rest) =>
    match home? user with
    | some home => home.map (.char · true) ++ rest
    | none => word

/-- The atoms of a word with a home directory in the place of a tilde at the front of the word. -/
def atomsWithHome (home? : Octets → Option Octets) (word : Word) (atoms : List Atom) : List Atom :=
  match tilde? word with
  | none => atoms
  | some (user, _) =>
    match home? user with
    | some home => atomsOf .quoted home ++ atoms.drop (user.length + 1)
    | none => atoms

/-- The parts of a word between its colons. -/
def betweenColons : Word → List Word
  | [] => [[]]
  | .char ':' false :: rest => [] :: betweenColons rest
  | part :: rest =>
    match betweenColons rest with
    | first :: others => (part :: first) :: others
    | [] => [[part]]

/-- The value of an assignment with home directories put in for tildes at its front and after
colons. -/
def putHomes (home? : Octets → Option Octets) (word : Word) : Word :=
  List.intercalate [.char ':' false] ((betweenColons word).map (putHome home?))

/-! ## Substitutions -/

/-- What expanding words needs: the output of commands. -/
abbrev Substitution := List Command → Run Octets

/-- A text without the line ends at its end. -/
def trimLineEnds (text : Octets) : Octets :=
  (text.reverse.dropWhile (· = '\n')).reverse

/-- What an unset parameter is refused with. -/
def notSet (name : Octets) : Octets :=
  name ++ ": parameter not set".toList

/-- The value of a parameter; a missing one is empty, or refused under the option for that. -/
def requireValue (name : Octets) : Run Value := do
  let state ← get
  match state.parameter? name with
  | some value => pure value
  | none => if state.isOn "nounset" then fail (notSet name) else pure (.one [])

/-- The value of an arithmetic expression; the assignments in it are made.  A quotient that is too
large ends the process. -/
def calculate (text : Octets) : Run Octets := do
  let state ← get
  let (value, assigned) := Arithmetic.evaluate state.value? text
  assigned.forM fun (name, n) => assign name (toString n).toList
  match value with
  | .error .overflow => throw (.left (.killed 8 false))
  | .error fault => fail (fault.words text)
  | .ok n => pure (toString n).toList

mutual

/-- Expands a part of a word.  `cuts` says that fields are cut, and `inner` that unquoted
characters of the word itself may be cut, too. -/
def expandPart (substitute : Substitution) (cuts inner : Bool) : Part → Run (List Atom)
  | .char c quoted =>
    pure [.char c (if quoted then .quoted else if inner then .result else .literal)]
  | .quotes => pure [.mark]
  | .stop => pure []
  | .parameter name use quoted => expandUse substitute cuts name quoted use
  | .output script quoted => do
    let output ← substitute script
    pure (atomsOf (originOf quoted) (trimLineEnds (output.filter (· ≠ '\x00'))))
  | .arithmetic expression quoted => do
    let text := textOf (← expandParts substitute false false expression)
    let value ← calculate (if cuts then withoutMarks text else text)
    pure (atomsOf (originOf quoted) value)

/-- Expands the parts of a word.  Quotes around the list of parameters leave no marks of their own:
there need not be a field. -/
def expandParts (substitute : Substitution) (cuts inner : Bool) : List Part → Run (List Atom)
  | [] => pure []
  | .stop :: _ => pure []
  | .quotes :: .parameter ['@'] .value true :: .quotes :: parts => do
    let atoms ← expandUse substitute cuts ['@'] true .value
    return atoms ++ (← expandParts substitute cuts inner parts)
  | part :: parts => do
    let atoms ← expandPart substitute cuts inner part
    return atoms ++ (← expandParts substitute cuts inner parts)

/-- Expands a parameter as it is used. -/
def expandUse (substitute : Substitution) (cuts : Bool) (name : Octets) (quoted : Bool) :
    Use → Run (List Atom)
  | .value => do
    let value ← requireValue name
    return (← get).atoms name cuts quoted value
  | .length => do
    let value ← requireValue name
    let length := ((← get).text value).length
    pure (atomsOf (originOf quoted) (Octets.ofNat length))
  | .fallback kind colon word => do
    let state ← get
    let found := (state.parameter? name).filter fun value => !(colon && (state.text value).isEmpty)
    let asWord : Run (List Atom) := do
      return atomsWithHome state.home? word (← expandParts substitute cuts (!quoted) word)
    let asText : Run Octets := do
      let atoms ← expandParts substitute false false word
      return textOf (atomsWithHome state.home? word atoms)
    match found, kind with
    | some _, .alternative => asWord
    | some value, _ => pure (state.atoms name cuts quoted value)
    | none, .alternative => pure []
    | none, .default => asWord
    | none, .assign => do
      let text ← asText
      if !isName name then fail (name ++ ": bad variable name".toList)
      assign name text
      pure (atomsOf (originOf quoted) text)
    | none, .complain => do
      let text ← asText
      if !word.isEmpty then fail (name ++ ": ".toList ++ text)
      else fail (notSet name ++ if colon then " or null".toList else [])
  | .cut cut pattern => do
    let value ← requireValue name
    if ((← get).parameter? name).isNone then pure []
    else
      let home? := (← get).home?
      let pattern := atomsWithHome home? pattern (← expandParts substitute false false pattern)
      return (← get).cutAtoms name cuts quoted cut pattern value
  | .bad => fail "Bad substitution".toList

end

/-! ## Words -/

/-- The atoms of a word that is not cut. -/
def expandWhole (substitute : Substitution) (word : Word) : Run (List Atom) := do
  expandParts substitute false false (putHome (← get).home? word)

/-- The text of a word that is not cut. -/
def expandText (substitute : Substitution) (word : Word) : Run Octets := do
  return textOf (← expandWhole substitute word)

/-- The text of the value of an assignment. -/
def expandValue (substitute : Substitution) (word : Word) : Run Octets := do
  return textOf (← expandParts substitute false false (putHomes (← get).home? word))

/-- The texts that a field stands for: the paths that it matches, or else itself. -/
def expandField (field : List Atom) : Run (List Octets) := do
  let state ← get
  let looks := holdsPattern field && !state.isOn "noglob" && state.self.mayOpen
  let found ←
    if looks then
      let root := (← onWorld get).seenListing state.self
      pure (matchingPaths root state.here field)
    else pure []
  pure (if found.isEmpty then [textOf field] else found)

/-- The fields that a word stands for. -/
def expandFields (substitute : Substitution) (word : Word) : Run (List Octets) := do
  let atoms ← expandParts substitute true false (putHome (← get).home? word)
  let fields := cutFields (← get).separators none atoms
  return (← fields.mapM expandField).flatten

/-- The fields that words stand for. -/
def expandWords (substitute : Substitution) : List Word → Run (List Octets)
  | [] => pure []
  | word :: words => do
    let fields ← expandFields substitute word
    return fields ++ (← expandWords substitute words)

end Shell

end KernelCensus
