/-
# Fixtures

A fixture stands in for the world outside: directories held in memory, failures laid over them,
and a host with a fixed answer.  A session edits a fixture and asks queries of it in turn.
-/
import KernelCensus.Query
import KernelCensus.Table

namespace KernelCensus

/-! ## State -/

/-- Directories by path, failures of listing and of probing by path, and the host's answer.  Paths
are told apart by their text. -/
structure Fixture where
  dirs : List (Path × List String) := []
  listFailures : List (Path × IoError) := []
  probeFailures : List (Path × IoError) := []
  host : Except QueryError String := .error (.hostQuery (.reported "uname unavailable" none))

namespace Fixture

/-- The entries of a directory; a path that is no directory is not found. -/
def entries (fixture : Fixture) (path : Path) : Except IoError (List String) :=
  match fixture.dirs.lookup path with
  | some names => .ok names
  | none => .error { kind := .notFound, message := "no such directory" }

/-- The directories of a fixture; a failure laid over a path comes before its entries. -/
def directories (fixture : Fixture) : Directories where
  list path :=
    match fixture.listFailures.lookup path with
    | some failure => .error failure
    | none => fixture.entries path
  isEmpty path :=
    match fixture.probeFailures.lookup path with
    | some failure => .error failure
    | none => (fixture.entries path).map List.isEmpty

/-- What queries read in a fixture. -/
def outside (fixture : Fixture) : Outside :=
  ⟨fixture.directories, fixture.host⟩

/-! ## Sessions -/

/-- A change to a fixture. -/
inductive Edit
  | setDir (path : Path) (names : List String)
  | removeDir (path : Path)
  | failList (path : Path) (failure : IoError)
  | failProbe (path : Path) (failure : IoError)
  | clearFailures
  | setHost (host : Except QueryError String)

/-- The fixture after a change. -/
def edit (fixture : Fixture) : Edit → Fixture
  | .setDir path names => { fixture with dirs := Table.put path names fixture.dirs }
  | .removeDir path => { fixture with dirs := Table.erase path fixture.dirs }
  | .failList path failure =>
    { fixture with listFailures := Table.put path failure fixture.listFailures }
  | .failProbe path failure =>
    { fixture with probeFailures := Table.put path failure fixture.probeFailures }
  | .clearFailures => { fixture with listFailures := [], probeFailures := [] }
  | .setHost host => { fixture with host := host }

/-- One step of a session. -/
inductive Step
  | edit (change : Edit)
  | ask (query : Query)

/-- The reply to a step. -/
inductive Reply
  | done
  | removed (wasThere : Bool)
  | answered (answer : Traced QueryError Answer)

/-- The reply to a step, given the fixture before it. -/
def reply (fixture : Fixture) : Step → Reply
  | .edit (.removeDir path) => .removed (fixture.dirs.lookup path).isSome
  | .edit _ => .done
  | .ask query => .answered (query.answer {} fixture.outside)

/-- The fixture after a step; only edits change it. -/
def after (fixture : Fixture) : Step → Fixture
  | .edit change => fixture.edit change
  | .ask _ => fixture

/-- The replies to the steps of a session, in order. -/
def replay (fixture : Fixture) : List Step → List Reply
  | [] => []
  | step :: steps => fixture.reply step :: (fixture.after step).replay steps

end Fixture

end KernelCensus
