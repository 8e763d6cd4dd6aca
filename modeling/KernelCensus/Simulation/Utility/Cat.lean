/-
# Copying files

`cat` prints files one after the other.  Its options number lines, mark their ends, show tabs and
unprintable bytes, and leave out repeated empty lines; lines go on from one file to the next.
-/
import KernelCensus.Simulation.Text.Quoted
import KernelCensus.Simulation.Utility.Basic
import KernelCensus.Simulation.Utility.Options

namespace KernelCensus

namespace Cat

/-- What is to be shown beside the text itself. -/
structure Style where
  numbers : Bool := false
  numbersNonempty : Bool := false
  squeezes : Bool := false
  ends : Bool := false
  tabs : Bool := false
  unprintable : Bool := false
  deriving DecidableEq, Repr

/-- The letters of the options, with their long names. -/
def letters : List (Char × List String) :=
  [('b', ["number-nonblank"]), ('n', ["number"]), ('s', ["squeeze-blank"]),
    ('v', ["show-nonprinting"]), ('E', ["show-ends"]), ('T', ["show-tabs"]), ('A', ["show-all"]),
    ('e', []), ('t', []), ('u', [])]

/-- The options. -/
def forms : List OptionForm :=
  (letters.map fun (letter, names) => { letter := letter, names := names }) ++ Options.about

/-- The style after one more option. -/
def Style.after (style : Style) (letter : Char) : Style :=
  match letter with
  | 'b' => { style with numbers := true, numbersNonempty := true }
  | 'n' => { style with numbers := true }
  | 's' => { style with squeezes := true }
  | 'v' => { style with unprintable := true }
  | 'E' => { style with ends := true }
  | 'T' => { style with tabs := true }
  | 'A' => { style with ends := true, tabs := true, unprintable := true }
  | 'e' => { style with ends := true, unprintable := true }
  | 't' => { style with tabs := true, unprintable := true }
  | _ => style

/-- Where the text stands: the number of the last numbered line, whether a line is begun, how many
empty lines came just before, counted up to two, and whether a carriage return is held back, which
is shown differently before the end of a line. -/
structure Position where
  line : Nat := 0
  inLine : Bool := false
  empty : Nat := 0
  held : Bool := false
  deriving DecidableEq, Repr

/-- The number of a line, right-aligned, with a tab. -/
def numbered (line : Nat) : Octets :=
  let digits := Octets.ofNat line
  List.replicate (6 - digits.length) ' ' ++ digits ++ ['\t']

/-- A byte below 128 made visible. -/
def visibleSmall (n : Nat) : Octets :=
  if n < 32 then ['^', Char.ofNat (n + 64)]
  else if n = 127 then ['^', '?']
  else [Char.ofNat n]

/-- A byte of a line as the style shows it. -/
def Style.shown (style : Style) (c : Char) : Octets :=
  if c = '\t' then if style.tabs then ['^', 'I'] else [c]
  else if style.unprintable then
    if c.toNat < 128 then visibleSmall c.toNat else ['M', '-'] ++ visibleSmall (c.toNat - 128)
  else [c]

/-- What is printed for a text that starts at a position, and the position after it. -/
def print (style : Style) : Octets → Position → Octets × Position
  | [], position => ([], position)
  | '\n' :: rest, position =>
    let empty := if position.inLine then 0 else min 2 (position.empty + 1)
    if empty = 2 && style.squeezes then print style rest { position with empty }
    else
      let counts := style.numbers && !style.numbersNonempty && 0 < empty
      let line := if counts then position.line + 1 else position.line
      let (more, last) := print style rest { line, inLine := false, empty }
      ((if counts then numbered line else []) ++ (if position.held then ['^', 'M'] else []) ++
        (if style.ends then ['$'] else []) ++ '\n' :: more, last)
  | c :: rest, position =>
    let counts := style.numbers && !position.inLine
    let line := if counts then position.line + 1 else position.line
    let held := c = '\r' && style.ends && !style.unprintable
    let (more, last) := print style rest { line, inLine := true, empty := 0, held }
    ((if position.held then ['\r'] else []) ++ (if counts then numbered line else []) ++
      (if held then [] else style.shown c) ++ more, last)

/-- Prints one file, and says where the text stands then, whether the file could be read and
whether the output could be written. -/
def printFile (invocation : Invocation) (style : Style) (position : Position) (file : Octets) :
    Job (Position × Bool × Bool) := do
  let refuse (words : String) : Job (Position × Bool × Bool) := do
    let name := Quoted.shellBeforeColon invocation.charset file
    invocation.complain (name ++ ": ".toList ++ words.toList)
    pure (position, false, true)
  match ← invocation.source file with
  | .error error => refuse error.words
  | .ok stream =>
    if (← get).feedsItself stream (← invocation.stream 1) then refuse "input file is output file"
    else if (← get).isEndless stream then
      let (start, position) := print style ['\x00'] position
      let (more, position) := print style Invocation.zeros position
      let written ← invocation.put 1 start
      return (position, true, written && (← invocation.putForever more))
    else
      match ← Invocation.take stream id with
      | .error error => refuse error.words
      | .ok text =>
        let (shown, position) := print style text position
        let written ← invocation.put 1 shown
        Invocation.await stream
        pure (position, true, written)

/-- Prints files in turn. -/
def printFiles (invocation : Invocation) (style : Style) (position : Position) :
    List Octets → Job (Bool × Bool)
  | [] => return (true, ← invocation.put 1 (if position.held then ['\r'] else []))
  | file :: files => do
    let (position, read, written) ← printFile invocation style position file
    if written then
      let (others, written) ← printFiles invocation style position files
      pure (read && others, written)
    else pure (read, false)

end Cat

/-- Prints the files it is given, or its standard input when it is given none.  A file that cannot
be read is complained of and passed over. -/
def Invocation.cat (invocation : Invocation) : Job Nat := do
  let options := Options.ofArguments Cat.forms invocation.isStrict invocation.arguments
  let isOpen (descriptor : Nat) : Bool := (invocation.descriptors.lookup descriptor).isSome
  match options.given.findSome? fun (letter, _) => Options.question? letter, options.complaint with
  | some question, _ => invocation.tellAbout "cat" About.cat question
  | none, some complaint => invocation.refuse complaint
  | none, none =>
    if !isOpen 1 then
      invocation.complain "standard output: Bad file descriptor".toList
      pure 1
    else
      let style := (options.given.map Prod.fst).foldl Cat.Style.after {}
      let files := if options.operands.isEmpty then [['-']] else options.operands
      let (read, written) ← Cat.printFiles invocation style {} files
      if written && files.contains ['-'] && !isOpen 0 then
        invocation.complain "closing standard input: Bad file descriptor".toList
        pure 1
      else invocation.finish (if read then 0 else 1) written

end KernelCensus
