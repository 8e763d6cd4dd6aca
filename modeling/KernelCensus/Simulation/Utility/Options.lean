/-
# Options

Arguments that start with `-` are options.  Letters may stand together after one dash, and a
letter with a value takes the rest of its argument or else the next argument.  A long name
follows two dashes, may be cut short, and takes its value after `=` or from the next argument.
Options may come after operands, up to `--`; but a strict reading ends them at the first operand.
-/
import KernelCensus.Simulation.Utility.About

namespace KernelCensus

/-- An option: its letter, its long names, and whether it takes a value.  The letter of one that has
only long names is a sign that tells it apart. -/
structure OptionForm where
  letter : Char
  names : List String
  valued : Bool := false
  onlyLong : Bool := false

/-- What arguments hold: the options in order, each with its value, the operands, and what is wrong
with the first argument that is no good, after which none is read. -/
structure Options where
  given : List (Char × Octets) := []
  operands : List Octets := []
  complaint : Option Octets := none

namespace Options

/-- The options that ask a utility about itself. -/
def about : List OptionForm :=
  [{ letter := '?', names := ["help"], onlyLong := true },
    { letter := '!', names := ["version"], onlyLong := true }]

/-- The question about itself that an option asks a utility. -/
def question? (letter : Char) : Option About.Question :=
  if letter = '?' then some .help else if letter = '!' then some .version else none

/-- The options with one more in front. -/
def adding (letter : Char) (value : Octets) (options : Options) : Options :=
  { options with given := (letter, value) :: options.given }

/-- No more options, for a reason. -/
def refused (complaint : Octets) : Options :=
  { complaint := some complaint }

/-- The form of a letter. -/
def form? (forms : List OptionForm) (letter : Char) : Option OptionForm :=
  forms.find? fun form => form.letter == letter && !form.onlyLong

/-- How letters that stand together end: with nothing more, with a letter that wants its value from
the next argument, or with a letter that is no option. -/
inductive ClusterEnd
  | complete
  | wanting (letter : Char)
  | unknown (letter : Char)

/-- The options that letters that stand together give, and how the letters end. -/
def cluster (forms : List OptionForm) : Octets → List (Char × Octets) × ClusterEnd
  | [] => ([], .complete)
  | letter :: rest =>
    match form? forms letter with
    | none => ([], .unknown letter)
    | some form =>
      if form.valued then
        if rest.isEmpty then ([], .wanting letter) else ([(letter, rest)], .complete)
      else
        let (given, ending) := cluster forms rest
        ((letter, []) :: given, ending)

/-- The forms that a long name, perhaps cut short, may mean. -/
def meant (forms : List OptionForm) (name : Octets) : List OptionForm :=
  let exact := forms.filter fun form => form.names.any fun full => full.toList == name
  if exact.isEmpty then
    forms.filter fun form => form.names.any fun full => name.isPrefixOf full.toList
  else exact

/-- The full names of a form that a name, perhaps cut short, may stand for. -/
def fullNames (form : OptionForm) (name : Octets) : List Octets :=
  (form.names.map String.toList).filter name.isPrefixOf

/-- The full name of a form that a name, perhaps cut short, stands for. -/
def fullName (form : OptionForm) (name : Octets) : Octets :=
  ((fullNames form name).head?).getD []

/-- The options and operands of arguments, read strictly or not; one that stands alone as `-` is an
operand. -/
def ofArguments (forms : List OptionForm) (strict : Bool) : List Octets → Options
  | [] => {}
  | ['-', '-'] :: rest => { operands := rest }
  | ('-' :: '-' :: long) :: rest =>
    let name := long.takeWhile (· != '=')
    let value? := if name.length < long.length then some (long.drop (name.length + 1)) else none
    match meant forms name with
    | [] => refused ("unrecognized option '--".toList ++ long ++ ['\''])
    | [form] =>
      let full := fullName form name
      if form.valued then
        match value?, rest with
        | some value, rest => (ofArguments forms strict rest).adding form.letter value
        | none, value :: rest => (ofArguments forms strict rest).adding form.letter value
        | none, [] => refused ("option '--".toList ++ full ++ "' requires an argument".toList)
      else
        match value? with
        | some _ => refused ("option '--".toList ++ full ++ "' doesn't allow an argument".toList)
        | none => (ofArguments forms strict rest).adding form.letter []
    | first :: others =>
      let shown := (fullName first name :: others.flatMap (fullNames · name)).flatMap fun full =>
        " '--".toList ++ full ++ ['\'']
      refused ("option '--".toList ++ long ++ "' is ambiguous; possibilities:".toList ++ shown)
  | ('-' :: letter :: letters) :: rest =>
    let (given, ending) := cluster forms (letter :: letters)
    let after : Options :=
      match ending, rest with
      | .complete, rest => ofArguments forms strict rest
      | .wanting letter, value :: rest => (ofArguments forms strict rest).adding letter value
      | .wanting letter, [] =>
        refused ("option requires an argument -- '".toList ++ [letter, '\''])
      | .unknown letter, _ => refused ("invalid option -- '".toList ++ [letter, '\''])
    { after with given := given ++ after.given }
  | operand :: rest =>
    if strict then { operands := operand :: rest }
    else
      let after := ofArguments forms strict rest
      { after with operands := operand :: after.operands }

end Options

end KernelCensus
