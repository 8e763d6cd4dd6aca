/-
# Redirections

A redirection makes a descriptor refer to a file, to what another descriptor refers to, or to a
text; or it closes the descriptor.  All targets but texts are expanded before the first file is
opened, and the first redirection that fails is complained of.
-/
import KernelCensus.Simulation.Shell.Expansion

namespace KernelCensus

namespace Shell

/-- A redirection whose target is known. -/
inductive Target
  | file (descriptor : Nat) (opening : Opening) (path : Octets)
  | copy (descriptor : Nat) (source : Option Nat)
  | text (descriptor : Nat) (word : Word)

/-- The descriptor that is named. -/
def Target.descriptor : Target → Nat
  | file descriptor _ _ => descriptor
  | copy descriptor _ => descriptor
  | text descriptor _ => descriptor

/-- The target of a redirection. -/
def targetOf (substitute : Substitution) : Redirect → Run Target
  | .file descriptor opening word => return .file descriptor opening (← expandText substitute word)
  | .copy descriptor word => do
    match ← expandText substitute word with
    | ['-'] => pure (.copy descriptor none)
    | [c] =>
      if c.isDigit then pure (.copy descriptor (some (c.toNat - 48)))
      else refuse "Bad fd number".toList
    | _ => refuse "Bad fd number".toList
  | .text descriptor number =>
    return .text descriptor (((← get).texts.lookup number).getD [])

/-- The targets of redirections. -/
def targetsOf (substitute : Substitution) : List Redirect → Run (List Target)
  | [] => pure []
  | redirect :: redirects => do
    let target ← targetOf substitute redirect
    return target :: (← targetsOf substitute redirects)

/-- Why a file could not be opened, in words. -/
def openingFault (opening : Opening) (error : IoError) : Octets :=
  if error.kind = .notFound || error.kind = .notADirectory then
    if opening = .read then "No such file".toList else "Directory nonexistent".toList
  else error.words.toList

/-- How what is at a path is protected from writing: not at all, because it is no file, or so that
it is in the way. -/
inductive Protection
  | none
  | noFile
  | full
  deriving DecidableEq, Repr

/-- How what is at a path is protected under the option for that. -/
def protection (opening : Opening) (path : Octets) : Run Protection := do
  let state ← get
  if opening = .write && state.isOn "noclobber" then
    match (← view) path with
    | .ok (_, .file _) | .ok (_, .executable _) | .ok (_, .record _ _) => pure .full
    | .ok _ => pure .noFile
    | .error _ =>
      let beside := (← onWorld get).lookBeside state.self path
      pure (if beside.isSome then .full else .none)
  else pure .none

/-- Opens a file. -/
def openPath (opening : Opening) (path : Octets) : Run (Except IoError Nat) := do
  let state ← get
  let access : Access :=
    match opening with
    | .read => .read
    | .write => .write
    | .clobber => .write
    | .append => .append
    | .both => .both
  onWorld (modifyGet fun world => world.openFile state.self path access)

/-- What a redirection makes a descriptor refer to: a stream, nothing, what it refers to already, or
what another descriptor refers to, which is not open. -/
inductive Referent
  | stream (number : Nat)
  | nothing
  | same
  | missing (source : Nat)
  deriving DecidableEq, Repr

/-- The text that a redirection announced, as it is read through a pipe.  The ends of the pipe are
open while the text is expanded. -/
def announcedText (substitute : Substitution) (word : Word) : Run (Except Stop Octets) := do
  requirePipe 0
  let outer ← get
  let pipe ← addStream (.pipe none)
  modify fun state => state.bind state.self.freeDescriptor pipe
  modify fun state => state.bind state.self.freeDescriptor pipe
  let result ← attempt (expandParts substitute false false word)
  modify fun state => { state with descriptors := outer.descriptors }
  pure (result.map textOf)

/-- What a redirection makes its descriptor refer to, or why that is not possible; that may have
been complained of already. -/
def referentOf (substitute : Substitution) : Target → Run (Except (Option Octets) Referent)
  | .file _ opening path => do
    let protection ← protection opening path
    let opens := opening = .read || protection = .noFile
    let verb := if opens then "cannot open ".toList else "cannot create ".toList
    if protection = .full then pure (.error (some (verb ++ path ++ ": File exists".toList)))
    else
      match ← openPath opening path with
      | .ok stream => pure (.ok (.stream stream))
      | .error error =>
        pure (.error (some (verb ++ path ++ ": ".toList ++ openingFault opening error)))
  | .copy _ none => pure (.ok .nothing)
  | .copy descriptor (some source) => do
    if source = descriptor then pure (.ok .same)
    else
      match (← get).descriptors.lookup source with
      | some stream => pure (.ok (.stream stream))
      | none => pure (.ok (.missing source))
  | .text _ word => do
    match ← announcedText substitute word with
    | .ok text => return .ok (.stream (← addStream (.text text)))
    | .error .failed => pure (.error none)
    | .error stop => throw stop

/-- Leaves open what was opened for a redirection under a number, unless nothing was. -/
def leaveOpen (number : Nat) : Target → Referent → Run Unit
  | .copy _ _, _ => pure ()
  | _, .stream stream => modify fun state => state.bind number stream
  | _, _ => pure ()

/-- Carries redirections out in order, up to one that fails, which is complained of.  If they end
later, what a descriptor refers to is kept the first time.  Where that is not possible, what was
opened stays open; a descriptor for which a copy fails is closed by then. -/
def redirectAll (substitute : Substitution) (later : Bool) : List Target → Run Bool
  | [] => pure true
  | target :: targets => do
    match ← referentOf substitute target with
    | .error fault? =>
      fault?.forM complain
      pure false
    | .ok .same => redirectAll substitute later targets
    | .ok referent =>
      let descriptor := target.descriptor
      let state ← get
      let isFirst := later && (state.outer.lookup descriptor).isNone
      let closed := state.shut.contains descriptor
      if later then set (state.take descriptor (referent = .nothing))
      match ← if isFirst then save descriptor closed else pure none, referent with
      | some obstacle, _ =>
        leaveOpen state.self.freeDescriptor target referent
        complain (Octets.ofNat descriptor ++ ": ".toList ++ obstacle.toList)
        pure false
      | none, .stream number =>
        modify fun state => state.bind descriptor number
        redirectAll substitute later targets
      | none, .missing source =>
        if isFirst && !closed then modify fun state => state.close descriptor
        complain (Octets.ofNat source ++ ": Bad file descriptor".toList)
        pure false
      | none, _ =>
        modify fun state => state.close descriptor
        redirectAll substitute later targets

end Shell

end KernelCensus
