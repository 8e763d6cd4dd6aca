/-
# Traced computations

A query yields an outcome and, beside it, two traces: the events it logged and the calls it made
to the world outside, each in order.  A failure keeps the traces of what came before it.
-/
import KernelCensus.Error
import KernelCensus.Version.Basic

namespace KernelCensus

/-! ## Events -/

/-- How much an event matters, least first. -/
inductive Level
  | debug
  | info
  | warn
  | error
  deriving DecidableEq, Repr

/-- The rank of a level. -/
def Level.rank : Level → Nat
  | debug => 0
  | info => 1
  | warn => 2
  | error => 3

/-- The name of a level. -/
def Level.text : Level → String
  | debug => "DEBUG"
  | info => "INFO"
  | warn => "WARN"
  | error => "ERROR"

/-- What a query may log. -/
inductive Event
  | skippedEmpty (directory : Path)
  | foundKernel (directory : Path)
  | kernelsPresent (count : Nat) (modules : Path)
  | oldestKernel (name : String) (version : Version)
  | hostKernel (release : String) (version : Version)
  deriving DecidableEq, Repr

namespace Event

/-- Resolved versions are information; everything else helps debugging. -/
def level : Event → Level
  | skippedEmpty _ => .debug
  | foundKernel _ => .debug
  | kernelsPresent _ _ => .debug
  | oldestKernel _ _ => .info
  | hostKernel _ _ => .info

/-- The event in words. -/
def text : Event → String
  | skippedEmpty directory => s!"skipping empty kernel directory {directory.text}"
  | foundKernel directory => s!"found kernel directory {directory.text}"
  | kernelsPresent count modules => s!"{count} installed kernel(s) under {modules.text}"
  | oldestKernel name version => s!"oldest installed kernel: {name} (version {version.text})"
  | hostKernel release version => s!"build host kernel: {release} (version {version.text})"

end Event

/-! ## Calls -/

/-- A call to the world outside. -/
inductive Call
  | list (directory : Path)
  | isEmpty (directory : Path)
  | host
  deriving DecidableEq, Repr

/-! ## Traced computations -/

/-- An outcome with the events logged and the calls made on the way to it. -/
structure Traced (ε α : Type) where
  outcome : Except ε α
  log : List Event
  calls : List Call

namespace Traced

/-- An outcome reached without a trace. -/
def ofExcept {ε α : Type} (outcome : Except ε α) : Traced ε α :=
  ⟨outcome, [], []⟩

/-- Goes on with the value of a success, adding the traces of both parts. -/
def andThen {ε α β : Type} (first : Traced ε α) (next : α → Traced ε β) : Traced ε β :=
  match first.outcome with
  | .error e => ⟨.error e, first.log, first.calls⟩
  | .ok a => ⟨(next a).outcome, first.log ++ (next a).log, first.calls ++ (next a).calls⟩

instance {ε : Type} : Monad (Traced ε) where
  pure a := ofExcept (.ok a)
  bind := andThen

/-- Logs one event. -/
def logged {ε : Type} (event : Event) : Traced ε Unit :=
  ⟨.ok (), [event], []⟩

/-- Makes one call, whose outcome is given. -/
def called {ε α : Type} (call : Call) (outcome : Except ε α) : Traced ε α :=
  ⟨outcome, [], [call]⟩

/-- Restates the error of a failure. -/
def mapError {ε δ α : Type} (restate : ε → δ) (computation : Traced ε α) : Traced δ α :=
  ⟨computation.outcome.mapError restate, computation.log, computation.calls⟩

/-- Two computations with the same outcome and traces are equal. -/
theorem ext {ε α : Type} {x y : Traced ε α} (outcome : x.outcome = y.outcome)
    (log : x.log = y.log) (calls : x.calls = y.calls) : x = y := by
  cases x; cases y; simp_all

/-- A success goes on with its value. -/
theorem andThen_ok {ε α β : Type} (a : α) (log : List Event) (calls : List Call)
    (next : α → Traced ε β) :
    andThen ⟨.ok a, log, calls⟩ next
      = ⟨(next a).outcome, log ++ (next a).log, calls ++ (next a).calls⟩ := rfl

/-- Going on twice is going on with what goes on. -/
theorem andThen_assoc {ε α β γ : Type} (x : Traced ε α) (f : α → Traced ε β)
    (g : β → Traced ε γ) : andThen (andThen x f) g = andThen x fun a => andThen (f a) g := by
  obtain ⟨outcome, log, calls⟩ := x
  cases outcome with
  | error e => rfl
  | ok a =>
    rw [andThen_ok, andThen_ok]
    cases h : (f a).outcome with
    | error e => simp [andThen, h]
    | ok b => simp [andThen, h]

/-- Going on with what leaves a value alone changes nothing. -/
theorem andThen_pure {ε α : Type} (x : Traced ε α) : andThen x pure = x := by
  obtain ⟨outcome, log, calls⟩ := x
  cases outcome with
  | error e => rfl
  | ok a => exact ext rfl (List.append_nil log) (List.append_nil calls)

instance {ε : Type} : LawfulMonad (Traced ε) :=
  LawfulMonad.mk' (Traced ε) andThen_pure (fun _ _ => rfl) andThen_assoc

/-! ### The parts of a computation -/

variable {ε α β : Type}

/-- A call that succeeds stands before what follows it. -/
theorem called_ok_bind (call : Call) (a : α) (next : α → Traced ε β) :
    called call (.ok a) >>= next
      = ⟨(next a).outcome, (next a).log, call :: (next a).calls⟩ := rfl

/-- Nothing follows a call that fails. -/
theorem called_error_bind (call : Call) (e : ε) (next : α → Traced ε β) :
    called call (.error e) >>= next = ⟨.error e, [], [call]⟩ := rfl

/-- An event stands before what follows it. -/
theorem logged_bind (event : Event) (next : Unit → Traced ε β) :
    logged event >>= next = ⟨(next ()).outcome, event :: (next ()).log, (next ()).calls⟩ := rfl

/-- Going on without a trace changes the outcome only. -/
theorem bind_ofExcept (x : Traced ε α) (next : α → Except ε β) :
    (x >>= fun a => ofExcept (next a)) = ⟨x.outcome >>= next, x.log, x.calls⟩ := by
  obtain ⟨outcome, log, calls⟩ := x
  cases outcome with
  | error e => rfl
  | ok a =>
    show andThen _ _ = _
    rw [andThen_ok, ofExcept, List.append_nil, List.append_nil]
    rfl

/-- A function of a success changes the outcome only. -/
theorem bind_pure (x : Traced ε α) (f : α → β) :
    (x >>= fun a => pure (f a)) = ⟨x.outcome.map f, x.log, x.calls⟩ := by
  show (x >>= fun a => ofExcept (.ok (f a))) = _
  rw [bind_ofExcept]
  cases x.outcome <;> rfl

/-- The outcome goes on as outcomes do. -/
theorem outcome_bind (x : Traced ε α) (next : α → Traced ε β) :
    (x >>= next).outcome = x.outcome >>= fun a => (next a).outcome := by
  obtain ⟨outcome, log, calls⟩ := x
  cases outcome <;> rfl

/-- Going on with what makes no calls adds none. -/
theorem calls_bind_of_silent (x : Traced ε α) {next : α → Traced ε β}
    (silent : ∀ a, (next a).calls = []) : (x >>= next).calls = x.calls := by
  obtain ⟨outcome, log, calls⟩ := x
  cases outcome with
  | error e => rfl
  | ok a =>
    show calls ++ (next a).calls = calls
    rw [silent, List.append_nil]

end Traced

end KernelCensus
