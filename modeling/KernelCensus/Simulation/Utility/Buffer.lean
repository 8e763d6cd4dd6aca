/-
# Output that is held back

A utility holds its output back until there is enough of it to be written at once, until it
complains, or until it ends.  What cannot be written is lost, and the utility says so in the end; it
knows the reason only where the last of its output was lost just then.
-/
import KernelCensus.Simulation.Utility.Basic

namespace KernelCensus

/-- What is held back: the bytes, the last one first, and their number; whether there was anything
to hold back yet, whether output was lost, and whether a complaint was. -/
structure Buffer where
  bytes : Octets := []
  size : Nat := 0
  begun : Bool := false
  lost : Bool := false
  unheard : Bool := false

namespace Buffer

/-- How many bytes are held back at most. -/
def capacity : Nat := 4096

/-- How many more bytes can be held back; none before there was anything to hold back. -/
def room (buffer : Buffer) : Nat :=
  if buffer.begun then capacity - buffer.size else 0

/-- The buffer with more bytes. -/
def push (buffer : Buffer) (text : Octets) : Buffer :=
  { buffer with
    bytes := text.reverse ++ buffer.bytes
    size := buffer.size + text.length
    begun := true }

end Buffer

namespace Invocation

/-- Writes what is held back, and says whether that was possible. -/
def flush (invocation : Invocation) (buffer : Buffer) : Job (Bool × Buffer) := do
  let written ← invocation.put 1 buffer.bytes.reverse
  pure (written, { buffer with bytes := [], size := 0, lost := buffer.lost || !written })

/-- Prints a text, and says whether none of it is lost yet: as much as there is room for is held
back; of more, whole blocks are written at once. -/
def hold (invocation : Invocation) (buffer : Buffer) (text : Octets) : Job (Bool × Buffer) := do
  if text.isEmpty then return (true, buffer)
  let rest := text.drop buffer.room
  let filled := buffer.push (text.take buffer.room)
  if rest.isEmpty then return (true, filled)
  let (written, flushed) ← invocation.flush filled
  if !written then return (false, flushed)
  let whole := rest.length - rest.length % Buffer.capacity
  if ← invocation.put 1 (rest.take whole) then return (true, flushed.push (rest.drop whole))
  else return (false, { flushed with lost := true })

/-- Prints texts, up to one of which something is lost; says whether there is none. -/
def holdAll (invocation : Invocation) (buffer : Buffer) : List Octets → Job (Bool × Buffer)
  | [] => pure (true, buffer)
  | text :: texts => do
    match ← invocation.hold buffer text with
    | (true, buffer) => invocation.holdAll buffer texts
    | (false, buffer) => pure (false, buffer)

/-- Prints texts, each of them whatever is lost of those before it. -/
def holdEach (invocation : Invocation) (buffer : Buffer) : List Octets → Job Buffer
  | [] => pure buffer
  | text :: texts => do
    let (_, buffer) ← invocation.hold buffer text
    invocation.holdEach buffer texts

/-- Complains after what is held back was written. -/
def complainAfter (invocation : Invocation) (buffer : Buffer) (complaint : Octets) :
    Job Buffer := do
  let (_, buffer) ← invocation.flush buffer
  let heard ← invocation.say complaint
  pure { buffer with unheard := buffer.unheard || !heard }

/-- Ends with a code, unless output was lost, or a complaint. -/
def close (invocation : Invocation) (buffer : Buffer) (code : Nat) : Job Nat := do
  let isOpen := (invocation.descriptors.lookup 1).isSome
  let (written, after) ← invocation.flush buffer
  if !after.lost then pure (if after.unheard then 1 else code)
  else if written && isOpen then
    invocation.complain "write error".toList
    pure 1
  else invocation.finish code false

end Invocation

end KernelCensus
