/-
# Reading commands

A script is read line by line, and each line gives a command, which may go on over further
lines.  Commands are joined to pipelines, pipelines by `&&` and `||`, and these to lists by `;`,
`&` and line ends.
-/
import KernelCensus.Simulation.Shell.Reading

namespace KernelCensus

namespace Shell

/-! ## Simple commands -/

/-- The name and the value of a word that is an assignment. -/
def assignment? (word : Word) : Option (Octets × Word) :=
  go word []
where
  go : Word → Octets → Option (Octets × Word)
    | .char '=' false :: value, name =>
      if isName name.reverse then some (name.reverse, value) else none
    | .char c false :: parts, name => go parts (c :: name)
    | _, _ => none

/-- The text of a word as it was written but for quotes, and whether any of it was quoted. -/
def rawText : Word → Octets × Bool
  | [] => ([], false)
  | .char c quoted :: parts =>
    let (text, more) := rawText parts
    (c :: text, quoted || more)
  | .parameter name _ _ :: parts =>
    let (text, more) := rawText parts
    ('$' :: name ++ text, more)
  | _ :: parts => ((rawText parts).1, true)

/-- Reads the target of a redirection. -/
def readRedirect (grammar : Grammar) (descriptor : Option Nat) (operator : String) :
    Reading Redirect := do
  let announces := operator = "<<" || operator = "<<-"
  match ← readTokenFor (if announces then .mark else .word) grammar false {} with
  | .word target =>
    let input := descriptor.getD 0
    let output := descriptor.getD 1
    let announce (dropsTabs : Bool) : Reading Redirect := do
      let (ending, verbatim) := rawText target
      let number := (← get).nextText
      modify fun reader =>
        { reader with
          announced := reader.announced ++ [⟨number, ending, dropsTabs, verbatim⟩]
          nextText := number + 1 }
      pure (.text input number)
    match operator with
    | "<<" => announce false
    | "<<-" => announce true
    | "<&" => pure (.copy input target)
    | "<>" => pure (.file input .both target)
    | "<" => pure (.file input .read target)
    | ">>" => pure (.file output .append target)
    | ">&" => pure (.copy output target)
    | ">|" => pure (.file output .clobber target)
    | _ => pure (.file output .write target)
  | token => unexpected token none false

/-- Reads redirections; a word after them is no keyword. -/
def readRedirects (grammar : Grammar) (isFirst : Bool) : Nat → Reading (List Redirect)
  | 0 => pure []
  | n + 1 => do
    match ← readTokenFor .word grammar false (if isFirst then .command else {}) with
    | .redirect descriptor operator =>
      let redirect ← readRedirect grammar descriptor operator
      return redirect :: (← readRedirects grammar false n)
    | token =>
      unread (if isFirst then token else token.asPlain)
      pure []

/-- The builtins that no function may be named after. -/
def specialBuiltins : List String :=
  [".", ":", "break", "continue", "eval", "exec", "exit", "export", "local", "readonly", "return",
    "set", "shift", "times", "trap", "unset"]

/-- Whether a function may have a name. -/
def mayName (name : Octets) : Bool :=
  isName name && !specialBuiltins.contains (String.ofList name)

/-- Reads the rest of a function after its name and the opening parenthesis. -/
def readFunction (grammar : Grammar) (word : Word) : Reading Command := do
  match ← readToken grammar with
  | .operator ")" =>
    match (plainText? word).filter mayName with
    | some name => return .definition name (← grammar.command true)
    | none => throw "Bad function name".toList
  | token => unexpected token (some ")") false

/-- Reads a simple command after some of its parts. -/
def readSimple (grammar : Grammar) (line : Nat) : Nat → List (Octets × Word) → List Word →
    List Redirect → Reading Command
  | 0, assignments, words, redirects => pure (.simple line assignments words redirects)
  | n + 1, assignments, words, redirects => do
    match ← readTokenFor .word grammar false { aliased := words.isEmpty } with
    | .word word =>
      match words.isEmpty, assignment? word with
      | true, some found =>
        readSimple grammar line n (assignments ++ [found]) words redirects
      | _, _ => readSimple grammar line n assignments (words ++ [word]) redirects
    | .redirect descriptor operator =>
      let redirect ← readRedirect grammar descriptor operator
      readSimple grammar line n assignments words (redirects ++ [redirect])
    | token =>
      match token, assignments, words, redirects with
      | .operator "(", [], [word], [] => readFunction grammar word
      | _, _, _, _ =>
        unread token
        pure (.simple line assignments words redirects)

/-! ## Compound commands -/

/-- Requires a keyword. -/
def expect (grammar : Grammar) (keyword : String) (lines : Bool) : Reading Unit := do
  let token ← readStart grammar lines
  if token.keyword? = some keyword then pure () else unexpected token (some keyword) true

/-- Reads a list of commands that may not be empty; the end of the text is left to be refused. -/
def readBlock (grammar : Grammar) : Reading Command := do
  return (← grammar.list false).getD default

/-- Reads a conditional after its first keyword. -/
def readBranch (grammar : Grammar) : Nat → Reading Command
  | 0 => pure default
  | n + 1 => do
    let condition ← readBlock grammar
    expect grammar "then" false
    let yes ← readBlock grammar
    let token ← readToken grammar
    match token.keyword? with
    | some "elif" => return .branch condition yes (some (← readBranch grammar n))
    | some "else" =>
      let no ← readBlock grammar
      expect grammar "fi" false
      pure (.branch condition yes (some no))
    | some "fi" => pure (.branch condition yes none)
    | _ => unexpected token (some "fi") true

/-- Reads a loop after its first keyword. -/
def readLoop (grammar : Grammar) (whileTrue : Bool) : Reading Command := do
  let condition ← readBlock grammar
  expect grammar "do" false
  let body ← readBlock grammar
  expect grammar "done" false
  pure (.loop whileTrue condition body)

/-- Reads words up to the end of the line or a semicolon. -/
def readWords (grammar : Grammar) : Nat → Reading (List Word)
  | 0 => pure []
  | n + 1 => do
    match ← readToken grammar with
    | .word word => return word :: (← readWords grammar n)
    | .lineEnd => pure []
    | .operator ";" => pure []
    | token => unexpected token none false

/-- Reads a loop over words after its first keyword. -/
def readEach (grammar : Grammar) (line : Nat) : Reading Command := do
  let token ← readToken grammar
  let name? :=
    match token with
    | .word word => (plainText? word).filter isName
    | _ => none
  match name? with
  | none => throw "Bad for loop variable".toList
  | some name =>
    let token ← readStart grammar true
    let words ←
      if token.keyword? = some "in" then pure (some (← readWords grammar (← bound)))
      else
        match token with
        | .operator ";" => pure none
        | token =>
          unread token
          pure none
    expect grammar "do" true
    let body ← readBlock grammar
    expect grammar "done" false
    pure (.each line name words body)

/-- Reads the patterns of a case after its first token; one that is no word matches the empty
text. -/
def readPatterns (grammar : Grammar) : Nat → Token → Reading (List Word)
  | 0, _ => pure []
  | n + 1, token => do
    let pattern :=
      match token with
      | .word word => word
      | _ => []
    match ← readToken grammar with
    | .operator "|" => return pattern :: (← readPatterns grammar n (← readToken grammar))
    | .operator ")" => pure [pattern]
    | token => unexpected token (some ")") false

/-- Reads the cases of a choice. -/
def readCases (grammar : Grammar) : Nat → Reading (List (List Word × Option Command))
  | 0 => pure []
  | n + 1 => do
    let token ← readTokenFor .word grammar true { keyword := true }
    if token.keyword? = some "esac" then pure []
    else
      let token ←
        match token with
        | .operator "(" => readToken grammar
        | token => pure token
      let patterns ← readPatterns grammar (← bound) token
      let body ← grammar.list true
      let token := (← readTokenFor .word grammar true { keyword := true }).asWord
      match token.keyword?, token with
      | some "esac", _ => pure [(patterns, body)]
      | _, .operator ";;" => return (patterns, body) :: (← readCases grammar n)
      | _, token => unexpected token (some ";;") true

/-- Reads a choice after its first keyword. -/
def readChoice (grammar : Grammar) (line : Nat) : Reading Command := do
  match ← readToken grammar with
  | .word subject =>
    expect grammar "in" true
    return .choice line subject (← readCases grammar (← bound))
  | token => unexpected token (some "word") false

/-- Reads a command; line ends before it may be skipped.  Redirections after a subshell, or after
braces around nothing but a subshell, become those of the subshell. -/
def readCommand (grammar : Grammar) (lines : Bool) : Reading Command := do
  let token ← readStart grammar lines
  let line := (← get).line
  let compound (body : Reading Command) : Reading Command := do
    let command ← body
    match ← readRedirects grammar true (← bound) with
    | [] => pure command
    | redirects =>
      match command with
      | .subshell line body _ => pure (.subshell line body redirects)
      | command => pure (.redirected line command redirects)
  match token.keyword?, token with
  | some "if", _ => compound do readBranch grammar (← bound)
  | some "while", _ => compound (readLoop grammar true)
  | some "until", _ => compound (readLoop grammar false)
  | some "for", _ => compound (readEach grammar line)
  | some "case", _ => compound (readChoice grammar line)
  | some "\x7b", _ => compound do
    let body ← readBlock grammar
    expect grammar "\x7d" false
    pure body
  | some _, token => unexpected token none true
  | none, .operator "(" => compound do
    let body ← readBlock grammar
    match ← readToken grammar with
    | .operator ")" => pure (.subshell line body [])
    | token => unexpected token (some ")") true
  | none, .word word =>
    unread (.word word)
    readSimple grammar line (← bound) [] [] []
  | none, .redirect descriptor operator =>
    unread (.redirect descriptor operator)
    readSimple grammar line (← bound) [] [] []
  | none, token => unexpected token none true

/-! ## Pipelines and lists -/

/-- Reads the further stages of a pipeline. -/
def readStages (grammar : Grammar) : Nat → Reading (List Command)
  | 0 => pure []
  | n + 1 => do
    match ← readToken grammar with
    | .operator "|" =>
      let stage ← readCommand grammar true
      return stage :: (← readStages grammar n)
    | token =>
      unread token
      pure []

/-- Reads a pipeline, perhaps negated. -/
def readPipeline (grammar : Grammar) (lines : Bool) : Reading Command := do
  let token ← readStart grammar lines
  let negated := token.keyword? = some "!"
  if !negated then unread token
  let first ← readCommand grammar false
  let command :=
    match ← readStages grammar (← bound) with
    | [] => first
    | stages => .pipeline (first :: stages)
  pure (if negated then .negation command else command)

/-- Reads the pipelines that are joined to a command by `&&` and `||`. -/
def readJoined (grammar : Grammar) : Nat → Command → Reading Command
  | 0, command => pure command
  | n + 1, command => do
    match ← readToken grammar with
    | .operator "&&" =>
      let next ← readPipeline grammar true
      readJoined grammar n (.conjunction command next)
    | .operator "||" =>
      let next ← readPipeline grammar true
      readJoined grammar n (.disjunction command next)
    | token =>
      unread token
      pure command

/-- Whether a token can come after a list. -/
def endsList (token : Token) : Bool :=
  let closing := ["do", "done", "elif", "else", "esac", "fi", "then", "\x7d"]
  match token with
  | .operator ")" => true
  | .operator ";;" => true
  | .finish => true
  | token =>
    match token.keyword? with
    | some keyword => closing.contains keyword
    | none => false

/-- Where a list stands: on a line of its own, or inside a command, where it may be empty or
not. -/
inductive Place
  | line
  | nonempty
  | inner
  deriving DecidableEq, Repr

/-- Two commands one after the other. -/
def following : Option Command → Command → Command
  | none, next => next
  | some done, next => .sequence done next

/-- Reads a list of commands. -/
def readList (grammar : Grammar) (place : Place) : Reading (Option Command) := do
  go (← bound) none (place = .inner)
where
  go : Nat → Option Command → Bool → Reading (Option Command)
    | 0, done, _ => pure done
    | n + 1, done, started => do
      match ← readStart grammar (place ≠ .line) with
      | .lineEnd =>
        readAnnounced grammar
        pure done
      | .finish =>
        readAnnounced grammar
        unread .finish
        pure done
      | token =>
        let line := (← get).line
        unread token
        if started && place ≠ .line && endsList token then pure done
        else
          let command ← readJoined grammar (← bound) (← readPipeline grammar false)
          match ← readToken grammar with
          | .operator "&" => go n (some (following done (.background line command))) true
          | .operator ";" => go n (some (following done command)) true
          | .lineEnd =>
            unread .lineEnd
            go n (some (following done command)) true
          | token =>
            match place, token with
            | _, .finish =>
              readAnnounced grammar
              unread token
              pure (some (following done command))
            | .line, token => unexpected token none true
            | _, token =>
              unread token
              pure (some (following done command))

/-- The grammar of scripts that are nested at most so deep. -/
def grammar : Nat → Grammar
  | 0 =>
    let refuse {α : Type} : Reading α := throw "too deeply nested".toList
    ⟨fun _ => refuse, fun _ => refuse, fun _ => refuse⟩
  | level + 1 =>
    { parts := fun context => readParts (grammar level) context
      list := fun mayBeEmpty => readList (grammar level) (if mayBeEmpty then .inner else .nonempty)
      command := fun lines => readCommand (grammar level) lines }

/-- A line of a script: a command, nothing, or the end of the script. -/
inductive Line
  | finish
  | blank
  | command (command : Command)

/-- Reads the next line of a script. -/
def readLine : Reading Line := do
  let grammar := grammar (← bound)
  match ← readStart grammar false with
  | .finish => pure .finish
  | .lineEnd => pure .blank
  | token =>
    unread token
    match ← readList grammar .line with
    | some command => pure (.command command)
    | none => pure .blank

/-- Reads a text in which parameters and substitutions are put in. -/
def readText : Reading Word := do
  (grammar (← bound)).parts ⟨.finish, true, .text⟩

end Shell

end KernelCensus
