/-
# Sessions

A session works in a system step by step: the system is changed from outside, the current settings
are set, and questions are asked.  Only changes from outside and the release commands that are run
change the system, and only the steps about settings change the settings; a change that fails
leaves the system as it was.
-/
import KernelCensus.Command.Execution

namespace KernelCensus

/-- A system with states and changes of them: what lies around the program in a state, the state
after a change from outside, and the state that running a release command leads to. -/
structure System (σ ε : Type) where
  surroundings : σ → Surroundings
  change : σ → ε → Except IoError σ
  afterCommand : σ → List String → σ

/-- The state of a system, and the current settings, if any. -/
structure Session (σ : Type) where
  state : σ
  settings : Option Settings := none

namespace Session

/-- One step of a session. -/
inductive Step (ε : Type)
  | change (change : ε)
  | readSettings (text : String)
  | loadSettings (file : Path)
  | defaultSettings
  | dropSettings
  | listDir (directory : Path)
  | isDirEmpty (directory : Path)
  | release (command : List String)
  | ask (query : Query)
  | dispatch (words : List String)
  | execute (arguments : List String)
  deriving DecidableEq, Repr

/-- The reply to a step. -/
inductive Reply
  | changed (outcome : Except IoError Unit)
  | settings (outcome : Except Failure Settings)
  | dropped (wereThere : Bool)
  | listed (outcome : Except IoError (List String))
  | probed (outcome : Except IoError Bool)
  | released (command : List String) (outcome : Except QueryError String)
  | answered (answer : Traced QueryError Answer)
  | printed (output : Traced Failure String)
  | executed (result : Execution)

/-- The settings in force: the current ones, or the default. -/
def effective {σ : Type} (session : Session σ) : Settings :=
  session.settings.getD {}

end Session

namespace System

variable {σ ε : Type} (system : System σ ε)

/-- The reply to a step, given the session before it. -/
def reply (session : Session σ) (step : Session.Step ε) : Session.Reply :=
  let surroundings := system.surroundings session.state
  let settings := session.effective
  match step with
  | .change change => .changed ((system.change session.state change).map fun _ => ())
  | .readSettings text => .settings (Settings.ofText surroundings.reader text)
  | .loadSettings file => .settings (Settings.load surroundings.reader surroundings.read file)
  | .defaultSettings => .settings (.ok {})
  | .dropSettings => .dropped session.settings.isSome
  | .listDir directory => .listed (surroundings.directories.list directory)
  | .isDirEmpty directory => .probed (surroundings.directories.isEmpty directory)
  | .release command => .released command (surroundings.programs.release command)
  | .ask query => .answered (query.answer settings.moduleTree (surroundings.outside settings))
  | .dispatch words => .printed (Command.dispatch settings surroundings words)
  | .execute arguments => .executed (Execution.run surroundings arguments)

/-- The release command that a step runs, if it runs one. -/
def releaseCommand? (session : Session σ) : Session.Step ε → Option (List String)
  | .release command => some command
  | .ask .hostVersion => some session.effective.hostReleaseCommand
  | .dispatch words => Command.releaseCommand? session.effective words
  | .execute arguments =>
    Execution.releaseCommand? (system.surroundings session.state) arguments
  | _ => none

/-- The session after a step. -/
def after (session : Session σ) (step : Session.Step ε) : Session σ :=
  match step with
  | .change change =>
    match system.change session.state change with
    | .ok state => { session with state }
    | .error _ => session
  | .dropSettings => { session with settings := none }
  | step =>
    match system.releaseCommand? session step with
    | some command => { session with state := system.afterCommand session.state command }
    | none =>
      match system.reply session step with
      | .settings (.ok settings) => { session with settings := some settings }
      | _ => session

/-- The replies to steps, in order. -/
def replay (session : Session σ) : List (Session.Step ε) → List Session.Reply
  | [] => []
  | step :: steps => system.reply session step :: replay (system.after session step) steps

end System

end KernelCensus
