/-
# Reading words and tokens

The text of a script is cut into tokens: words, operators and line ends.  Some words are keywords
where a command may start.  The texts that redirections announce stand after the line that
announces them, and are numbered.
-/
import KernelCensus.Simulation.Shell.Script

namespace KernelCensus

namespace Shell

/-! ## Readers -/

/-- A token of a script.  A redirection has its descriptor and its operator; a plain word is no
keyword whatever it is. -/
inductive Token
  | finish
  | lineEnd
  | operator (text : String)
  | redirect (descriptor : Option Nat) (operator : String)
  | word (word : Word)
  | plain (word : Word)

/-- The token where it is no keyword. -/
def Token.asPlain : Token → Token
  | .word parts => .plain parts
  | token => token

/-- The token where it may be a keyword. -/
def Token.asWord : Token → Token
  | .plain parts => .word parts
  | token => token

/-- Whether a token is the end of the script. -/
def Token.isFinish : Token → Bool
  | finish => true
  | _ => false

/-- A text that a redirection announced: its number, the line that ends it, whether tabs before
its lines are dropped, and whether it is taken as it stands. -/
structure Announced where
  number : Nat
  ending : Octets
  dropsTabs : Bool
  verbatim : Bool

/-- The text of an alias that is being read: the name of the alias, how much is left to read where
the text ends, and whether the text ends with a blank. -/
structure Unfolding where
  name : Octets
  left : Nat
  blank : Bool

/-- What is left to read of a script, the number of the line, a token that was read ahead, the
texts that start after this line, and the texts that were read. -/
structure Reader where
  rest : Octets
  /-- How long the whole script is, and whether it mattered where it ends. -/
  size : Nat
  ended : Bool := false
  line : Nat := 1
  ahead : Option Token := none
  /-- Whether the last token had been read ahead, and whether it was the first one after the text of
  an alias that ends with a blank. -/
  wasAhead : Bool := false
  joins : Bool := false
  aliases : List (Octets × Octets) := []
  /-- The aliases whose texts are being read, the innermost first. -/
  unfolding : List Unfolding := []
  announced : List Announced := []
  texts : List (Nat × Word) := []
  nextText : Nat := 0
  /-- The announced text that is being read, and whether the line that ends it was just read. -/
  text : Option Announced := none
  pastText : Bool := false
  /-- How many further lines were begun, and whether the next one is about to be. -/
  further : Nat := 0
  atLineEnd : Bool := false
  /-- How much of the script was not shown to who starts it. -/
  unshown : Nat := 0

/-- What reads a script, or finds that it is none and says why. -/
abbrev Reading := ExceptT Octets (StateM Reader)

/-- A bound on the number of characters and tokens left, and on how deep they are nested.  With
aliases there may be more of them than characters of the script: no alias is replaced inside its own
text, so that each may grow a text once inside each other. -/
def bound : Reading Nat := do
  let reader ← get
  let length := (reader.aliases.flatMap Prod.snd).length
  return (reader.size + 2) * Nat.pow (length + 2) reader.aliases.length

/-- Remembers that it mattered where the text ends. -/
def noteEnd : Reading Unit :=
  modify fun reader => { reader with ended := true }

/-- The next character as it stands, which stays unread.  There is none where a text ends. -/
def peekPlain : Reading (Option Char) := do
  let reader ← get
  if reader.pastText then pure none
  else
    match reader.rest with
    | c :: _ => pure (some c)
    | [] =>
      noteEnd
      pure none

/-- Reads the next character. -/
def advance : Reading Unit :=
  modify fun reader =>
    let count := if reader.rest.head? = some '\n' then 1 else 0
    { reader with
      rest := reader.rest.tail
      line := reader.line + count
      further := reader.further + count }

/-- Reads a line end after which a line need not follow. -/
def advanceLine : Reading Unit :=
  modify fun reader =>
    { reader with rest := reader.rest.tail, line := reader.line + 1, atLineEnd := true }

/-- Goes on to a further line if the last one has ended. -/
def goFurther : Reading Unit :=
  modify fun reader =>
    if reader.atLineEnd then { reader with further := reader.further + 1, atLineEnd := false }
    else reader

/-- Reads the next character without counting lines. -/
def pass : Reading Unit :=
  modify fun reader => { reader with rest := reader.rest.tail }

/-- Reads line ends that a backslash takes away; a bound on their number is given. -/
def joinLines : Nat → Reading Unit
  | 0 => pure ()
  | n + 1 => do
    match (← get).rest with
    | '\\' :: '\n' :: _ =>
      advance
      advance
      joinLines n
    | ['\\'] => noteEnd
    | _ => pure ()

/-- The next character after line ends that a backslash takes away; it stays unread. -/
def peek : Reading (Option Char) := do
  if (← peekPlain) = some '\\' then joinLines (← bound)
  peekPlain

/-- Reads the next character if it is a given one. -/
def skip (c : Char) : Reading Bool := do
  if (← peek) = some c then
    advance
    pure true
  else pure false

/-- Reads something if there is an answer, and otherwise nothing. -/
def lookAhead {α : Type} (reading : Reading (Option α)) : Reading (Option α) := do
  let before ← get
  match ← reading with
  | some found => pure (some found)
  | none =>
    modify fun after => { before with ended := before.ended || after.ended }
    pure none

/-- Reads the characters of a class at the front. -/
def takeWhile (accept : Char → Bool) : Reading Octets := do
  go (← bound)
where
  go : Nat → Reading Octets
    | 0 => pure []
    | n + 1 => do
      match ← peek with
      | some c =>
        if accept c then
          advance
          return c :: (← go n)
        else pure []
      | none => pure []

/-- Reads the characters of a class at the front, where a backslash is like any other. -/
def takePlain (accept : Char → Bool) : Reading Octets := do
  go (← bound)
where
  go : Nat → Reading Octets
    | 0 => pure []
    | n + 1 => do
      match ← peekPlain with
      | some c =>
        if accept c then
          advance
          return c :: (← go n)
        else pure []
      | none => pure []

/-! ## Words -/

/-- What ends a part of a word: a blank or an operator, a double quote, a brace, two parentheses,
or only the end of the text. -/
inductive Ending
  | blank
  | quote
  | brace
  | parentheses
  | finish
  deriving DecidableEq, Repr

/-- What parts belong to: a word, a text that a redirection announced, or a word that tells where
such a text ends, in which nothing is put in. -/
inductive Purpose
  | word
  | text
  | mark
  deriving DecidableEq, Repr

/-- Where parts of a word stand: what ends them, whether they are quoted, and what they belong to.
-/
structure Context where
  ending : Ending
  quoted : Bool
  purpose : Purpose := .word
  deriving DecidableEq, Repr

/-- The place of parts inside others. -/
def Context.inner (context : Context) (ending : Ending) (quoted : Bool) : Context :=
  { context with ending, quoted }

/-- What reads the inner parts of a script: parts of words, lists of commands, which may be empty
if that is allowed, and single commands, before which line ends may be skipped. -/
structure Grammar where
  parts : Context → Reading Word
  list : Bool → Reading (Option Command)
  command : Bool → Reading Command

/-- A character that ends a word. -/
def isDelimiter (c : Char) : Bool :=
  " \t\n;&|<>()".toList.contains c

/-- A special parameter. -/
def isSpecial (c : Char) : Bool :=
  "$?#@*!-".toList.contains c

/-- The text between backquotes, where a backslash protects a few characters. -/
def untilBackquote (quoted : Bool) : Nat → Reading Octets
  | 0 => throw "EOF in backquote substitution".toList
  | n + 1 => do
    match ← peek with
    | none => throw "EOF in backquote substitution".toList
    | some '`' =>
      advance
      pure []
    | some '\\' =>
      advance
      match ← peekPlain with
      | none => throw "EOF in backquote substitution".toList
      | some c =>
        advance
        let kept := if "$`\\".toList.contains c || (quoted && c == '"') then [c] else ['\\', c]
        return kept ++ (← untilBackquote quoted n)
    | some c =>
      advance
      return c :: (← untilBackquote quoted n)

/-- Runs a reading on another text, and comes back to this one.  A token that was read ahead is read
there, and none that is read ahead there is read here. -/
def within {α : Type} (text : Octets) (line : Nat) (reading : Reading α) : Reading α := do
  let outer ← get
  set { outer with rest := text, line, unfolding := [], announced := [] }
  let result ← tryCatch reading fun fault => do
    modify fun inner =>
      { inner with
        rest := outer.rest
        ended := outer.ended
        further := outer.further
        atLineEnd := outer.atLineEnd }
    throw fault
  modify fun inner =>
    { inner with
      rest := outer.rest
      ended := outer.ended
      line := outer.line
      further := outer.further
      atLineEnd := outer.atLineEnd
      ahead := none
      unfolding := outer.unfolding
      announced := outer.announced }
  pure result

/-- How a token is named in a complaint; `keyword` says whether keywords are told from words. -/
def Token.describe (keyword : Token → Option String) (token : Token) : Octets :=
  let quoted (text : String) : Octets := ['"'] ++ text.toList ++ ['"']
  match token with
  | .finish => "end of file".toList
  | .lineEnd => "newline".toList
  | .operator text => quoted text
  | .redirect _ _ => "redirection".toList
  | .word _ =>
    match keyword token with
    | some text => quoted text
    | none => "word".toList
  | .plain _ => "word".toList

/-- The words that are keywords where a command may start. -/
def keywords : List String :=
  ["!", "case", "do", "done", "elif", "else", "esac", "fi", "for", "if", "in", "then", "until",
    "while", "\x7b", "\x7d"]

/-- The unquoted text of a word that holds nothing else. -/
def plainText? : Word → Option Octets
  | [] => some []
  | .char c false :: parts => (plainText? parts).map (c :: ·)
  | _ => none

/-- The keyword that a token is. -/
def Token.keyword? : Token → Option String
  | .word parts =>
    match plainText? parts with
    | some text => keywords.find? fun keyword => keyword.toList == text
    | none => none
  | _ => none

/-- Refuses a token, naming what was expected: a keyword or an operator, or any word. -/
def unexpected {α : Type} (token : Token) (expected : Option String) (keyword : Bool) :
    Reading α :=
  let shown := token.describe fun token => if keyword then token.keyword? else none
  let tail :=
    match expected with
    | some "word" => " (expecting word)".toList
    | some text => " (expecting \"".toList ++ text.toList ++ "\")".toList
    | none => []
  throw (shown ++ " unexpected".toList ++ tail)

/-- Reads the rest of braces that spell no parameter. -/
def readBad (grammar : Grammar) (context : Context) (name : Octets) : Reading Word := do
  let _ ← grammar.parts (context.inner .brace context.quoted)
  pure [.parameter name .bad context.quoted]

/-- Reads the operator after a parameter's name between braces and the word after the operator, up
to the closing brace.  After a lone colon a closing brace closes nothing: the word goes on, and
ends where the next brace is closed. -/
def readUse (grammar : Grammar) (context : Context) (name : Octets) : Reading Word := do
  let used (use : Use) : Reading Word := pure [.parameter name use context.quoted]
  let fallback (kind : Fallback) (colon : Bool) : Reading Word := do
    used (.fallback kind colon (← grammar.parts (context.inner .brace context.quoted)))
  let cut (c : Char) (short long : Cut) : Reading Word := do
    let kind := if ← skip c then long else short
    used (.cut kind (← grammar.parts (context.inner .brace false)))
  let colon ← skip ':'
  let c ← peek
  if c.isSome then pass
  match colon, c with
  | false, some '\x7d' => used .value
  | true, some '\x7d' =>
    let word ← grammar.parts (context.inner .brace context.quoted)
    return .parameter name .value context.quoted :: word ++ [.stop]
  | colon, some '-' => fallback .default colon
  | colon, some '=' => fallback .assign colon
  | colon, some '?' => fallback .complain colon
  | colon, some '+' => fallback .alternative colon
  | false, some '#' => cut '#' .shortestFront .longestFront
  | false, some '%' => cut '%' .shortestBack .longestBack
  | _, _ => readBad grammar context name

/-- Reads the name of a variable or the number of a positional parameter. -/
def readName? : Reading (Option Octets) := do
  match ← peek with
  | some c =>
    if isNameStart c then return some (← takeWhile isNameChar)
    else if c.isDigit then return some (← takeWhile Char.isDigit)
    else pure none
  | none => pure none

/-- Reads a special parameter before a closing brace. -/
def readLastSpecial? : Reading (Option Char) := do
  match ← peek with
  | some c =>
    pass
    if c ≠ '\x7d' && (← peek) = some '\x7d' then pure (some c) else pure none
  | none => pure none

/-- Reads a parameter between braces, after the opening one. -/
def readBraces (grammar : Grammar) (context : Context) : Reading Word := do
  let length (name : Octets) : Reading Word := do
    if ← skip '\x7d' then pure [.parameter name .length context.quoted]
    else readBad grammar context name
  match ← readName? with
  | some name => readUse grammar context name
  | none =>
    match ← peek with
    | none => readBad grammar context []
    | some '\x7d' => readBad grammar context []
    | some '#' =>
      advance
      match ← readName? with
      | some name => length name
      | none =>
        match ← lookAhead readLastSpecial? with
        | some c => if isSpecial c then length [c] else readBad grammar context []
        | none => readUse grammar context ['#']
    | some c =>
      pass
      if isSpecial c then readUse grammar context [c] else readBad grammar context []

/-- The command of an optional one as a list. -/
def asList : Option Command → List Command
  | some command => [command]
  | none => []

/-! ### Texts that were announced -/

/-- How many characters at the fronts of two texts are the same. -/
def samePart : Octets → Octets → Nat
  | c :: cs, d :: ds => if c = d then samePart cs ds + 1 else 0
  | _, _ => 0

/-- Reads the line that ends the text which is being read, if that line comes next.  Another line
that starts like it loses the character after that if this is not of ASCII. -/
def checkText : Reading Unit := do
  match (← get).text with
  | none => pure ()
  | some text =>
    let rest := (← get).rest
    if rest.isPrefixOf text.ending then noteEnd
    let more := rest.drop text.ending.length
    if text.ending.isPrefixOf rest && (more.isEmpty || more.head? = some '\n') then
      modify fun reader =>
        { reader with
          rest := more.tail
          line := reader.line + 1
          pastText := true
          atLineEnd := true }
    else
      let same := samePart text.ending rest
      let others := rest.drop same
      if 0 < same && others.head?.any ('\x80' ≤ ·) then
        modify fun reader => { reader with rest := rest.take same ++ others.tail }

/-- Drops the tabs at the start of a line of a text, and says whether there were any. -/
def dropTabs : Reading Bool := do
  if (← get).text.any Announced.dropsTabs then
    return !(← takePlain (· = '\t')).isEmpty
  else return false

/-- Starts a line of a text that is taken as it stands. -/
def startLine : Reading Unit := do
  let _ ← dropTabs
  checkText

/-- Starts a line of a text in which a backslash takes line ends away, and answers what it starts
with.  Right after dropped tabs a backslash and a line end both stay, and what follows counts as
the same line. -/
def startJoined (quoted : Bool) : Reading Word := do
  let _ ← peek
  let dropped ← dropTabs
  match dropped, (← get).rest with
  | true, '\\' :: '\n' :: _ =>
    pass
    pass
    let kept : Word := [.char '\n' true]
    return if quoted then .char '\\' true :: kept else kept
  | _, _ =>
    checkText
    return []

/-- Reads the text up to an apostrophe, and the apostrophe.  Inside a text that a redirection
announced it may go on to the end of that one. -/
def untilApostrophe (inText : Bool) : Nat → Reading Octets
  | 0 => pure []
  | n + 1 => do
    match ← peekPlain with
    | none => if inText then pure [] else throw "Unterminated quoted string".toList
    | some '\'' =>
      advance
      pure []
    | some c =>
      advance
      if inText && c = '\n' then startLine
      return c :: (← untilApostrophe inText n)

/-- The lines of a text that is taken as it stands. -/
def textLines : Nat → Reading Octets
  | 0 => pure []
  | n + 1 => do
    startLine
    if (← peekPlain).isNone then pure []
    else
      let line ← takePlain (· ≠ '\n')
      let ended := (← peekPlain).isSome
      if ended then advance
      return line ++ (if ended then ['\n'] else []) ++ (← textLines n)

/-- Reads the texts that were announced. -/
def readTexts (grammar : Grammar) : List Announced → Reading Unit
  | [] => pure ()
  | text :: others => do
    goFurther
    let outer ← get
    set { outer with text := some text, pastText := false }
    let word ←
      if text.verbatim then pure ((← textLines (← bound)).map fun c => Part.char c true)
      else
        pure ((← startJoined true) ++ (← grammar.parts ⟨.finish, true, .text⟩))
    modify fun reader =>
      { reader with
        texts := reader.texts ++ [(text.number, word)]
        text := outer.text
        pastText := false }
    readTexts grammar others

/-- Reads the texts that start here. -/
def readAnnounced (grammar : Grammar) : Reading Unit := do
  let announced := (← get).announced
  modify fun reader => { reader with announced := [] }
  readTexts grammar announced

/-! ### Tokens -/

/-- Skips blanks and comments. -/
def skipBlanks : Reading Unit := do
  let _ ← takeWhile fun c => c = ' ' || c = '\t'
  if (← peek) = some '#' then
    let _ ← takePlain (· ≠ '\n')

/-- Reads the operator that starts with a character, if there is one. -/
def readOperator? (c : Char) : Reading (Option String) := do
  let operator (text : String) : Reading (Option String) := do
    advance
    pure (some text)
  let twice (single double : String) : Reading (Option String) := do
    advance
    return some (if ← skip c then double else single)
  match c with
  | '&' => twice "&" "&&"
  | '|' => twice "|" "||"
  | ';' => twice ";" ";;"
  | '(' => operator "("
  | ')' => operator ")"
  | _ => pure none

/-- Reads the operator of a redirection. -/
def readRedirectOperator? : Reading (Option String) := do
  if ← skip '<' then
    if ← skip '<' then return some (if ← skip '-' then "<<-" else "<<")
    else if ← skip '&' then pure (some "<&")
    else if ← skip '>' then pure (some "<>")
    else pure (some "<")
  else if ← skip '>' then
    if ← skip '>' then pure (some ">>")
    else if ← skip '&' then pure (some ">&")
    else if ← skip '|' then pure (some ">|")
    else pure (some ">")
  else pure none

/-- Reads the operator of a redirection after the number of its descriptor. -/
def readNumbered? : Reading (Option Token) := do
  match ← peek with
  | some c =>
    if c.isDigit then
      advance
      return (← readRedirectOperator?).map fun operator => .redirect (some (c.toNat - 48)) operator
    else pure none
  | none => pure none

/-- Forgets the aliases whose texts end before this place. -/
def leaveAliases : Reading Unit :=
  modify fun reader =>
    match reader.unfolding with
    | [] => { reader with joins := false }
    | unfolding =>
      let (inside, past) := unfolding.partition fun text => text.left < reader.rest.length
      { reader with unfolding := inside, joins := past.any (·.blank) }

/-- Reads a token as it stands; what a word is for is given. -/
def readOneFor (purpose : Purpose) (grammar : Grammar) : Reading Token := do
  let ahead := (← get).ahead
  modify fun reader => { reader with ahead := none, wasAhead := ahead.isSome }
  match ahead with
  | some token => pure token
  | none =>
    goFurther
    skipBlanks
    leaveAliases
    match ← peek with
    | none => pure .finish
    | some '\n' =>
      advanceLine
      pure .lineEnd
    | some c =>
      match ← readOperator? c with
      | some operator => pure (.operator operator)
      | none =>
        match ← lookAhead readNumbered? with
        | some token => pure token
        | none =>
          match ← readRedirectOperator? with
          | some operator => pure (.redirect none operator)
          | none => return .word (← grammar.parts ⟨.blank, false, purpose⟩)

/-- Gives a token back, to be read again. -/
def unread (token : Token) : Reading Unit :=
  modify fun reader => { reader with ahead := some token }

/-- Reads a token as it stands, after any line ends if these may be skipped. -/
def readOne (purpose : Purpose) (grammar : Grammar) (lines : Bool) : Reading Token := do
  go (← bound)
where
  go : Nat → Reading Token
    | 0 => pure .finish
    | n + 1 => do
      let token ← readOneFor purpose grammar
      match lines, token with
      | true, .lineEnd =>
        readAnnounced grammar
        go n
      | _, _ => pure token

/-- What a word may be where it stands: a keyword, an alias, either of them or none. -/
structure Standing where
  keyword : Bool := false
  aliased : Bool := false

/-- Where a command may start. -/
def Standing.command : Standing := { keyword := true, aliased := true }

/-- The alias that a token is, and its text.  Words are looked at where an alias may stand, and
where `joins` says so. -/
def Reader.aliasOf? (reader : Reader) (standing : Standing) (token : Token) :
    Option (Octets × Octets) :=
  let isKeyword := standing.keyword && token.keyword?.isSome
  if reader.wasAhead || !(standing.aliased || reader.joins) || isKeyword then none
  else
    match token with
    | .word word =>
      match plainText? word with
      | some name =>
        let isInside (text : Unfolding) : Bool :=
          text.name == name && text.left ≤ reader.rest.length
        if reader.unfolding.any isInside then none
        else (reader.aliases.lookup name).map fun text => (name, text)
      | none => none
    | _ => none

/-- Reads a token where a word is for something, after any line ends if these may be skipped;
aliases are replaced by their texts. -/
def readTokenFor (purpose : Purpose) (grammar : Grammar) (lines : Bool) (standing : Standing) :
    Reading Token := do
  go (← bound) standing
where
  go : Nat → Standing → Reading Token
    | 0, _ => pure .finish
    | n + 1, standing => do
      let token ← readOne purpose grammar lines
      match (← get).aliasOf? standing token with
      | none => pure token
      | some (name, text) =>
        let isBlank (c : Char) : Bool := c = ' ' || c = '\t'
        modify fun reader =>
          { reader with
            rest := text ++ reader.rest
            unfolding := ⟨name, reader.rest.length, text.getLast?.any isBlank⟩ :: reader.unfolding }
        go n { standing with aliased := true }

/-- Reads a token where a command may start, after any line ends if these may be skipped. -/
def readStart (grammar : Grammar) (lines : Bool) : Reading Token :=
  readTokenFor .word grammar lines .command

/-- Reads a token where a word is nothing but a word. -/
def readToken (grammar : Grammar) : Reading Token :=
  readTokenFor .word grammar false {}

/-! ### Substitutions -/

/-- Reads commands up to a closing parenthesis.  Texts that were announced before it on the same
line are empty. -/
def readOutput (grammar : Grammar) : Reading (List Command) := do
  let outer := (← get).announced
  modify fun reader => { reader with announced := [] }
  let command ← grammar.list true
  match ← readToken grammar with
  | .operator ")" =>
    modify fun reader =>
      { reader with
        texts := reader.texts ++ reader.announced.map fun text => (text.number, [])
        announced := outer }
    pure (asList command)
  | token => unexpected token (some ")") true

/-- Reads the commands of another text, up to what cannot follow a list. -/
def readWhole (grammar : Grammar) (text : Octets) (line : Nat) : Reading (List Command) :=
  within text line do
    return asList (← grammar.list true)

/-- Reads what stands after a dollar sign. -/
def readDollar (grammar : Grammar) (context : Context) : Reading Word := do
  let quoted := context.quoted
  match ← peek with
  | some '(' =>
    advance
    if ← skip '(' then
      return [.arithmetic (← grammar.parts (context.inner .parentheses true)) quoted]
    else return [.output (← readOutput grammar) quoted]
  | some '\x7b' =>
    advance
    readBraces grammar context
  | some c =>
    if isNameStart c then return [.parameter (← takeWhile isNameChar) .value quoted]
    else if c.isDigit || isSpecial c then
      advance
      pure [.parameter [c] .value quoted]
    else pure [.char '$' quoted]
  | none => pure [.char '$' quoted]

/-- Reads what stands after a backslash. -/
def readEscape (context : Context) : Reading Word := do
  match ← peekPlain with
  | none => pure [.char '\\' true]
  | some c =>
    advance
    let escapes :=
      !context.quoted || "$`\\".toList.contains c ||
        (c = '"' && (context.purpose ≠ .text || context.ending = .brace ||
          context.ending = .quote)) ||
        (c = '\x7d' && context.ending = .brace)
    pure (if escapes then [.char c true] else [.char '\\' true, .char c true])

/-- Complains that the text ends inside a part of a word. -/
def Context.unended (context : Context) : Reading Unit :=
  let inQuotes := context.ending = .quote || (context.ending = .brace && context.quoted)
  match context.ending with
  | .blank => pure ()
  | .finish => pure ()
  | .parentheses => throw "Missing '))'".toList
  | _ =>
    throw (if inQuotes && context.purpose ≠ .text then "Unterminated quoted string"
      else "Missing '\x7d'").toList

/-- Reads two closing parentheses. -/
def readClosing? : Reading (Option Unit) := do
  if ← skip ')' then
    if ← skip ')' then pure (some ()) else pure none
  else pure none

/-- Reads parts of a word; parentheses that were opened inside are counted. -/
def readParts (grammar : Grammar) (context : Context) : Reading Word := do
  go (← bound) 0
where
  go : Nat → Nat → Reading Word
    | 0, _ => pure []
    | n + 1, depth => do
      let ending := context.ending
      let isText := ending = .parentheses || ending = .finish
      match ← peek with
      | none =>
        context.unended
        pure []
      | some c =>
        let plain : Reading Word := do
          advance
          let start ←
            if c = '\n' && context.purpose = .text then startJoined context.quoted else pure []
          return .char c context.quoted :: start ++ (← go n depth)
        if ending = .blank && isDelimiter c then pure []
        else if (ending = .quote && c = '"') || (ending = .brace && c = '\x7d') then
          advance
          pure []
        else if ending = .parentheses && c = '(' then
          advance
          return .char c true :: (← go n (depth + 1))
        else if ending = .parentheses && c = ')' && depth > 0 then
          advance
          return .char c true :: (← go n (depth - 1))
        else if ending = .parentheses && c = ')' then
          match ← lookAhead readClosing? with
          | some _ => pure []
          | none => plain
        else if context.purpose = .mark && (c = '$' || c = '`') then plain
        else
          match c with
          | '\\' =>
            advance
            return (← readEscape context) ++ (← go n depth)
          | '\'' =>
            if context.quoted || isText then plain
            else
              advance
              let text ← untilApostrophe (context.purpose = .text) (← bound)
              let inner : Word := text.map fun c => .char c true
              return .quotes :: inner ++ .quotes :: (← go n depth)
          | '"' =>
            if isText then plain
            else
              advance
              let inner ← grammar.parts (context.inner .quote true)
              return .quotes :: inner ++ .quotes :: (← go n depth)
          | '$' =>
            advance
            return (← readDollar grammar context) ++ (← go n depth)
          | '`' =>
            advance
            let text ← untilBackquote context.quoted (← bound)
            return .output (← readWhole grammar text 1) context.quoted :: (← go n depth)
          | _ => plain

end Shell

end KernelCensus
