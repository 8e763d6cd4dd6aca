/-
# First parts of files

`head` prints the first lines or bytes of files, ten lines unless told otherwise.  A count after
`-` is of the lines or bytes at the end that are left out.
-/
import KernelCensus.Simulation.Number.Numeral
import KernelCensus.Simulation.Text.Quoted
import KernelCensus.Simulation.Utility.Buffer
import KernelCensus.Simulation.Utility.Options

namespace KernelCensus

namespace Head

/-- How much of a file is printed: a count from the front, or all but a count at the end. -/
structure Amount where
  bytes : Bool := false
  fromEnd : Bool := false
  count : Nat := 10
  deriving DecidableEq, Repr

/-- When files get headings. -/
inductive Headings
  | ifSeveral
  | always
  | never
  deriving DecidableEq, Repr

/-- What options ask for. -/
structure Request where
  amount : Amount := {}
  headings : Headings := .ifSeveral
  lineEnd : Char := '\n'

/-- The options; a digit is none, but is told apart from other letters. -/
def forms : List OptionForm :=
  [{ letter := 'c', names := ["bytes"], valued := true },
    { letter := 'n', names := ["lines"], valued := true },
    { letter := '|', names := ["-presume-input-pipe"], onlyLong := true },
    { letter := 'q', names := ["quiet", "silent"] }, { letter := 'v', names := ["verbose"] },
    { letter := 'z', names := ["zero-terminated"] }] ++ Options.about ++
    "0123456789".toList.map fun digit => { letter := digit, names := [] }

/-- Why arguments give no request: what was to be a count of bytes or lines is none or too large,
the use of options is wrong, or they ask about the utility. -/
inductive Fault
  | count (bytes large : Bool) (spelled : Octets)
  | use (complaint : Octets)
  | about (question : About.Question)

/-- The fault of a letter that would have to be part of a short request. -/
def trailing (letter : Char) : Fault :=
  .use ("invalid trailing option -- ".toList ++ [letter])

/-! ## Counts -/

/-- The powers that letters stand for. -/
def powers : List (Char × Nat) :=
  [('K', 1), ('k', 1), ('M', 2), ('m', 2), ('G', 3), ('T', 4), ('P', 5), ('E', 6), ('Z', 7),
    ('Y', 8)]

/-- The factor that a suffix stands for. -/
def factor? : Octets → Option Nat
  | [] => some 1
  | ['b'] => some 512
  | [letter] => (powers.lookup letter).map (Nat.pow 1024)
  | [letter, 'i', 'B'] => (powers.lookup letter).map (Nat.pow 1024)
  | [letter, 'B'] => (powers.lookup letter).map (Nat.pow 1000)
  | [letter, 'D'] => (powers.lookup letter).map (Nat.pow 1000)
  | _ => none

/-- The count that a text spells: digits, perhaps after blanks and a plus sign, and a suffix; or a
suffix alone, for one of it. -/
def count? (text : Octets) : Option Nat :=
  let unsigned := Numeral.skipSpaces text
  let unsigned := if unsigned.head? == some '+' then unsigned.drop 1 else unsigned
  let digits := Numeral.digits 10 unsigned
  if digits.isEmpty then if text.isEmpty then none else factor? text
  else (factor? (unsigned.drop digits.length)).map fun factor => factor * Numeral.valueOf 10 digits

/-- What is said of a count that is none or too large. -/
def notCount (charset : Charset) (bytes large : Bool) (spelled : Octets) : Octets :=
  "invalid number of ".toList ++ (if bytes then "bytes" else "lines").toList ++ ": ".toList ++
    Quoted.plain charset spelled ++
    (if large then ": Value too large for defined data type" else "").toList

/-- The amount that a count of bytes or lines spells. -/
def amount (bytes fromEnd : Bool) (spelled : Octets) : Except Fault Amount :=
  match count? spelled with
  | some count =>
    if 18446744073709551616 ≤ count then .error (.count bytes true spelled)
    else .ok ⟨bytes, fromEnd, count⟩
  | none => .error (.count bytes false spelled)

/-- The amount that the value of an option spells. -/
def amountOf (bytes : Bool) : Octets → Except Fault Amount
  | '-' :: spelled => amount bytes true spelled
  | spelled => amount bytes false spelled

/-- The request after one more option. -/
def Request.after (request : Request) (option : Char × Octets) : Except Fault Request :=
  match option with
  | ('c', value) => (amountOf true value).map fun amount => { request with amount }
  | ('n', value) => (amountOf false value).map fun amount => { request with amount }
  | ('q', _) => .ok { request with headings := .never }
  | ('v', _) => .ok { request with headings := .always }
  | ('z', _) => .ok { request with lineEnd := '\x00' }
  | ('|', _) => .ok request
  | (letter, _) =>
    match Options.question? letter with
    | some question => .error (.about question)
    | none => .error (trailing letter)

/-- A request that starts with a count, and letters after it: whether it is of bytes, and the suffix
of the count. -/
structure Short where
  bytes : Bool := false
  suffix : Octets := []
  request : Request := {}

/-- A short request after one more letter. -/
def Short.after (short : Short) (letter : Char) : Except Fault Short :=
  match letter with
  | 'c' => .ok { short with bytes := true, suffix := [] }
  | 'b' | 'k' | 'm' => .ok { short with bytes := true, suffix := [letter] }
  | 'l' => .ok { short with bytes := false }
  | 'q' | 'v' | 'z' => (short.request.after (letter, [])).map fun request =>
      { short with request }
  | _ => .error (trailing letter)

/-- The request that a first argument such as `-5` or `-20cq` stands for, if it is one. -/
def short? (argument : Octets) : Option (Except Fault Request) :=
  match argument with
  | '-' :: rest =>
    let digits := Numeral.digits 10 rest
    if digits.isEmpty then none
    else
      some do
        let short ← (rest.drop digits.length).foldlM Short.after {}
        let amount ← amount short.bytes false (digits ++ short.suffix)
        pure { short.request with amount }
  | _ => none

/-- What arguments ask for, read strictly or not, and of which files. -/
def ofArguments (strict : Bool) (arguments : List Octets) :
    Except Fault (Request × List Octets) := do
  let (start, arguments) ←
    match arguments with
    | [] => pure ({}, [])
    | first :: rest =>
      match short? first with
      | some request => pure (← request, rest)
      | none => pure ({}, first :: rest)
  let options := Options.ofArguments forms strict arguments
  let request ← options.given.foldlM Request.after start
  match options.complaint with
  | some complaint => throw (.use complaint)
  | none => pure ()
  let ⟨bytes, fromEnd, count⟩ := request.amount
  if bytes && fromEnd && 9223372036854775808 ≤ count then
    throw (.count true true (Octets.ofNat count))
  pure (request, if options.operands.isEmpty then [['-']] else options.operands)

/-! ## Printing -/

/-- The first lines of a text. -/
def firstLines (lineEnd : Char) : Nat → Octets → Octets
  | _, [] => []
  | 0, _ => []
  | count + 1, c :: cs =>
    c :: firstLines lineEnd (if c = lineEnd then count else count + 1) cs

/-- The number of lines of a text; the last one need not be ended. -/
def lineCount (lineEnd : Char) (text : Octets) : Nat :=
  text.count lineEnd + if text.isEmpty || text.getLast? == some lineEnd then 0 else 1

/-- The part of a text that is printed. -/
def Request.front (request : Request) (text : Octets) : Octets :=
  let ⟨bytes, fromEnd, count⟩ := request.amount
  if bytes then text.take (if fromEnd then text.length - count else count)
  else
    firstLines request.lineEnd
      (if fromEnd then lineCount request.lineEnd text - count else count) text

/-- How many bytes of a pipe are read at once. -/
def blockSize : Nat := 8192

/-- The part of a text that is read, which is the printed one where reading can go back. -/
def Request.chosen (request : Request) (seekable : Bool) (text : Octets) : Octets :=
  if seekable || (request.amount.bytes && !request.amount.fromEnd) then request.front text
  else if request.amount.fromEnd then text
  else
    let blocks := ((request.front text).length + blockSize - 1) / blockSize
    text.take (blocks * blockSize)

/-- Whether what was read of a text that may go on is enough. -/
def Request.isSatisfied (request : Request) (text : Octets) : Bool :=
  let ⟨bytes, fromEnd, count⟩ := request.amount
  !fromEnd && count ≤ if bytes then text.length else text.count request.lineEnd

/-- The heading of a file, in the pieces in which it is printed. -/
def heading (isFirst : Bool) (file : Octets) : List Octets :=
  let name := if file = ['-'] then "standard input".toList else file
  [if isFirst then [] else ['\n'], "==> ".toList, name, " <==\n".toList]

/-- What came of printing part of a file: whether it had a heading, whether it could be read, what
is held back, and whether output was lost, so that no more is printed. -/
structure Outcome where
  headed : Bool := false
  read : Bool := true
  buffer : Buffer
  stopped : Bool := false

/-- Prints a text of a file, and complains if some of it is lost. -/
def put (invocation : Invocation) (buffer : Buffer) (text : Octets) : Job (Bool × Buffer) := do
  let (held, buffer) ← invocation.hold buffer text
  if !held then
    let obstacle := (← get).obstacle (← invocation.stream 1)
    invocation.complain ("error writing 'standard output': ".toList ++ obstacle.toList)
  pure (held, buffer)

/-- Prints so many zeros, or zeros for ever; says whether none are lost. -/
def putZeros (invocation : Invocation) (buffer : Buffer) (count? : Option Nat) :
    Job (Bool × Buffer) := do
  let size := Invocation.zerosSize
  match count? with
  | none =>
    let (held, buffer) ← put invocation buffer Invocation.zeros
    if held then
      let _ ← invocation.putForever Invocation.zeros
      pure (true, buffer)
    else pure (false, buffer)
  | some count =>
    let (held, buffer) ← put invocation buffer (List.replicate (count % size) '\x00')
    if !held then pure (false, buffer)
    else if count < size then pure (true, buffer)
    else
      let (_, buffer) ← invocation.flush buffer
      if ← invocation.putTimes Invocation.zeros (count / size) then pure (true, buffer)
      else put invocation buffer Invocation.zeros

/-- How many zeros are printed of endless ones, if not all. -/
def Request.zeroCount? (request : Request) : Option Nat :=
  let ⟨bytes, fromEnd, count⟩ := request.amount
  if !fromEnd && (bytes || request.lineEnd = '\x00') then some count else none

/-- Prints part of a stream, as far as it could be opened.  What is printed counts as read; a pipe
is read by blocks, unless bytes are counted. -/
def printStream (invocation : Invocation) (request : Request) (headed : Bool) (buffer : Buffer)
    (file : Octets) (stream : Nat) : Job Outcome := do
  if !request.amount.fromEnd && request.amount.count = 0 then return { headed, buffer }
  let seekable := (← get).isSeekable stream
  if (← get).isEndless stream then
    if request.amount.fromEnd && !request.amount.bytes && request.lineEnd ≠ '\x00' then
      modify fun world => { world with halt := some .endless }
    let (held, buffer) ← putZeros invocation buffer request.zeroCount?
    return { headed, buffer, stopped := !held }
  match ← Invocation.take stream (request.chosen seekable) with
  | .error error =>
    let name := if file = ['-'] then "standard input".toList else file
    let isOpen := stream < (← get).streams.size
    let fault := if request.amount.fromEnd && !isOpen then "cannot fstat " else "error reading "
    let buffer ← invocation.complainAfter buffer (fault.toList ++
      Quoted.shellAlways invocation.charset name ++ ": ".toList ++ error.words.toList)
    pure { headed, read := false, buffer }
  | .ok text =>
    let (held, buffer) ← put invocation buffer (if seekable then text else request.front text)
    if held && !request.isSatisfied text then Invocation.await stream
    pure { headed, buffer, stopped := !held }

/-- Prints part of one file. -/
def printFile (invocation : Invocation) (request : Request) (headed isFirst : Bool)
    (buffer : Buffer) (file : Octets) : Job Outcome := do
  match ← invocation.source file with
  | .error error =>
    let buffer ← invocation.complainAfter buffer ("cannot open ".toList ++
      Quoted.shellAlways invocation.charset file ++ " for reading: ".toList ++
      error.words.toList)
    pure { read := false, buffer }
  | .ok stream =>
    let start := if headed then heading isFirst file else []
    let (_, buffer) ← invocation.holdAll buffer start
    printStream invocation request headed buffer file stream

/-- Prints parts of files in turn, until output is lost. -/
def printFiles (invocation : Invocation) (request : Request) (headed isFirst : Bool)
    (buffer : Buffer) : List Octets → Job Outcome
  | [] => pure { buffer }
  | file :: files => do
    let outcome ← printFile invocation request headed isFirst buffer file
    if outcome.stopped then return outcome
    let others ←
      printFiles invocation request headed (isFirst && !outcome.headed) outcome.buffer files
    pure { others with read := outcome.read && others.read }

end Head

/-- Prints the first parts of the files it is given, or of its standard input when it is given
none. -/
def Invocation.head (invocation : Invocation) : Job Nat := do
  match Head.ofArguments invocation.isStrict invocation.arguments with
  | .error (.use complaint) => invocation.refuse complaint
  | .error (.count bytes large spelled) =>
    invocation.complain (Head.notCount invocation.charset bytes large spelled)
    pure 1
  | .error (.about question) => invocation.tellAbout "head" About.head question
  | .ok (request, files) =>
    let headed :=
      match request.headings with
      | .ifSeveral => 1 < files.length
      | .always => true
      | .never => false
    let outcome ← Head.printFiles invocation request headed true {} files
    if outcome.stopped then return 1
    let closed := files.contains ['-'] && (invocation.descriptors.lookup 0).isNone
    let buffer ←
      if closed then invocation.complainAfter outcome.buffer "-: Bad file descriptor".toList
      else pure outcome.buffer
    invocation.close buffer (if outcome.read && !closed then 0 else 1)

end KernelCensus
