/-
# Starting utilities

A utility acts on the world and ends with an exit code.  What it complains of goes to descriptor 2,
after its name.
-/
import KernelCensus.Simulation.Opening
import KernelCensus.Simulation.Text.Charset

namespace KernelCensus

/-- What acts on the world. -/
abbrev Job := StateM World

namespace Invocation

/-- The number of the stream of a descriptor; one that is not open has the number of none. -/
def stream (invocation : Invocation) (descriptor : Nat) : Job Nat := do
  match invocation.descriptors.lookup descriptor with
  | some stream => pure stream
  | none => return (← get).streams.size

/-- Writes to a descriptor, and says whether that was possible.  A signal that comes because it was
not ends the program, unless the program ignores it. -/
def put (invocation : Invocation) (descriptor : Nat) (bytes : Octets) : Job Bool := do
  if bytes.isEmpty then pure true
  else
    let stream ← invocation.stream descriptor
    let limit := invocation.limits.bound? .fileSize
    modifyGet fun world =>
      let (written, after) := world.writeUpTo limit stream bytes
      match after.halt with
      | some (.killed signal) =>
        if invocation.ignored.contains signal then (written, { after with halt := none })
        else (written, after)
      | _ => (written, after)

/-- Writes a text to descriptor 1 so many times, and says whether that was possible. -/
def putTimes (invocation : Invocation) (text : Octets) : Nat → Job Bool
  | 0 => pure true
  | times + 1 => do
    if ← invocation.put 1 text then invocation.putTimes text times else pure false

/-- How many zeros are written at once. -/
def zerosSize : Nat := 65536

/-- Some zeros. -/
def zeros : Octets :=
  List.replicate zerosSize '\x00'

/-- More often than a text of that size fits into any pipe. -/
def manyTimes : Nat := 1000

/-- Writes a text to descriptor 1 for ever, unless that becomes impossible.  Only a pipe with
limited room makes it so after some time. -/
def putForever (invocation : Invocation) (text : Octets) : Job Bool := do
  if ← invocation.put 1 text then
    let stream ← invocation.stream 1
    let times := if (← get).isLimited stream then manyTimes else 0
    if ← invocation.putTimes text times then
      modify fun world => { world with halt := some .endless }
      pure true
    else pure false
  else pure false

/-- What the utility takes bytes as. -/
def charset (invocation : Invocation) : Charset :=
  Charset.ofEnvironment invocation.environment

/-- Whether a variable asks the utility to keep to what all of its kind do. -/
def isStrict (invocation : Invocation) : Bool :=
  (invocation.environment.lookup "POSIXLY_CORRECT".toList).isSome

/-- Writes a complaint, and says whether that was possible. -/
def say (invocation : Invocation) (complaint : Octets) : Job Bool :=
  invocation.put 2 (invocation.name ++ ": ".toList ++ complaint ++ ['\n'])

/-- Writes a complaint. -/
def complain (invocation : Invocation) (complaint : Octets) : Job Unit := do
  let _ ← invocation.say complaint

/-- Ends with a code, unless the output could not be written. -/
def finish (invocation : Invocation) (code : Nat) (written : Bool) : Job Nat := do
  if written then pure code
  else
    let obstacle := (← get).obstacle (← invocation.stream 1)
    invocation.complain ("write error: ".toList ++ obstacle.toList)
    pure 1

/-- Complains of wrong use and points to the help. -/
def refuse (invocation : Invocation) (complaint : Octets) : Job Nat := do
  invocation.complain complaint
  let _ ← invocation.put 2
    ("Try '".toList ++ invocation.name ++ " --help' for more information.\n".toList)
  pure 1

/-- Opens a file for reading, where `-` is descriptor 0. -/
def source (invocation : Invocation) (file : Octets) : Job (Except IoError Nat) := do
  if file = ['-'] then return .ok (← invocation.stream 0)
  modifyGet fun world => world.openFile invocation file .read

/-- The bytes that are left to read in a stream, all or as many as a choice says. -/
def take (stream : Nat) (choose : Octets → Octets) : Job (Except IoError Octets) :=
  modifyGet fun world =>
    match world.unread stream with
    | .error error => (.error error, world)
    | .ok bytes =>
      let chosen := choose bytes
      (.ok chosen, world.skip stream chosen.length)

/-- Waits for more than is left to read in a stream, if more would come. -/
def await (stream : Nat) : Job Unit :=
  modify fun world => world.await stream

end Invocation

end KernelCensus
