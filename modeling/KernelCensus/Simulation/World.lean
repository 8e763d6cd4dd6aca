/-
# Worlds

While programs run they share a world: a file tree and the streams that are open.  A stream is
read from and written to at its front and end, or at an offset of a file that all its readers and
writers share.  Programs hold descriptors, which are numbers of streams.
-/
import KernelCensus.Host.Program
import KernelCensus.Simulation.Invocation
import KernelCensus.Simulation.Pipe
import KernelCensus.Simulation.Walk

namespace KernelCensus

namespace IoError

/-- A descriptor is not open, or not for this. -/
def badDescriptor : IoError := { kind := .other, message := "Bad file descriptor (os error 9)" }

/-- The error without its number. -/
def words (error : IoError) : String :=
  (error.message.splitOn " (os error ").headD ""

end IoError

namespace ExitStatus

/-- The signal for writing where nobody reads. -/
def brokenPipe : Nat := 13

/-- The signal for writing more to a file than a limit allows. -/
def fileTooLarge : Nat := 25

end ExitStatus

/-! ## Streams -/

/-- Where the bytes of a stream are. -/
inductive Channel
  | device (device : Device)
  | pipe (pipe : Pipe)
  | file (location : List EntryName) (offset : Nat) (appends : Bool)
  | directory (location : List EntryName)
  /-- Where those of another stream are, which has a lower number. -/
  | shared (stream : Nat)

/-- A stream, and whether it may be read and written. -/
structure Stream where
  channel : Channel
  reads : Bool
  writes : Bool

/-- A pipe that is written, with room for so many bytes if that is limited. -/
def Stream.pipe (room : Option Nat) : Stream :=
  ⟨.pipe { room }, false, true⟩

/-- The end of a pipe that is read. -/
def Stream.pipeEnd (pipe : Nat) : Stream :=
  ⟨.shared pipe, true, false⟩

/-- A stream of a text. -/
def Stream.text (text : Octets) : Stream :=
  ⟨.pipe { front := text }, true, false⟩

/-- What was last written at the end of a file that was not empty: the file, its length, and the
texts, the last one first. -/
structure Ending where
  location : List EntryName
  length : Nat
  texts : List Octets

/-- Why the program that runs does not go on: it wants bytes that a full pipe could not take, a
signal ends it because of what it writes, or it would go on for ever. -/
inductive Halt
  | waiting (full : Nat)
  | killed (signal : Nat)
  | endless
  deriving DecidableEq, Repr

/-- What programs share while they run.  The tree lacks what was last written at the end of one
file.  Processes are numbered as they start; the last number is kept, and the numbers of those
that are still there, with how they were started.  A signal that was sent is kept with the number of
the process that it is for, until that process sees it.  What is below one location is newer than
the rest of the tree, and what was written since the world began is newer still. -/
structure World where
  root : FileTree
  ending : Option Ending := none
  streams : Array Stream
  processes : Nat := 100
  alive : List (Nat × Invocation) := []
  sent : List (Nat × Nat) := []
  halt : Option Halt := none
  young : List EntryName
  fresh : List (List EntryName) := []

namespace World

/-- The first bytes of every executable: what kind it is, and a last one that is part of no text. -/
def executableContent : Octets :=
  ['\x7f', 'E', 'L', 'F'] ++ ([2, 1, 1] ++ List.replicate 9 0 ++ [3, 0, 62, 0, 1, 0, 0, 0]).map
    Char.ofNat ++ ['\xff']

/-- The bytes of the file at a location. -/
def content (world : World) (location : List EntryName) : Octets :=
  let content :=
    match world.root.at? location with
    | some (.file content) => content
    | some (.executable _) => executableContent
    | _ => []
  match world.ending with
  | some ending =>
    if ending.location = location then content ++ ending.texts.reverse.flatten else content
  | none => content

/-- The length of the file at a location. -/
def length (world : World) (location : List EntryName) : Nat :=
  match world.ending with
  | some ending =>
    if ending.location = location then ending.length else (world.content location).length
  | none => (world.content location).length

/-- The same world where the tree lacks nothing. -/
def settled (world : World) : World :=
  match world.ending with
  | some { location, .. } =>
    { world with
      root := world.root.putAt (.file (world.content location)) location
      ending := none }
  | none => world

/-- The world where what is at a location was written since it began. -/
def touch (world : World) (location : List EntryName) : World :=
  if world.fresh.contains location then world
  else { world with fresh := location :: world.fresh }

/-- The directory in which the processes are. -/
def processesPlace : EntryName :=
  Utf8.encode "proc"

/-- How new what is at a location is; what tells of processes is as new as can be. -/
def newness (world : World) (location : List EntryName) : Nat :=
  if location.head? = some processesPlace then 3
  else if world.fresh.contains location then 2
  else if world.young.isPrefixOf location then 1
  else 0

/-- The world with one more stream, and its number. -/
def add (world : World) (stream : Stream) : World × Nat :=
  let number := world.streams.size
  ({ world with streams := world.streams.push stream }, number)

/-! ## Processes -/

/-- The world with one more process, which was started like this, and its number. -/
def begin (world : World) (invocation : Invocation) : World × Nat :=
  let number := world.processes + 1
  ({ world with processes := number, alive := (number, invocation) :: world.alive }, number)

/-- Whether there is a process of a number. -/
def isAlive (world : World) (number : Nat) : Bool :=
  (world.alive.lookup number).isSome

/-- The world without some processes, and without the signals that were sent to them. -/
def bury (world : World) (numbers : List Nat) : World :=
  { world with
    alive := world.alive.filter fun (number, _) => !numbers.contains number
    sent := world.sent.filter fun (number, _) => !numbers.contains number }

/-! ## Channels -/

/-- The stream that has the bytes of a stream: itself, or the one with which it shares them. -/
def base (world : World) (stream : Nat) : Nat :=
  match world.streams[stream]? with
  | some ⟨.shared other, _, _⟩ => other
  | _ => stream

/-- Where the bytes of a stream are. -/
def channel? (world : World) (stream : Nat) : Option Channel :=
  (world.streams[world.base stream]?).map (·.channel)

/-- Whether a stream may be read. -/
def mayRead (world : World) (stream : Nat) : Bool :=
  world.streams[stream]?.any (·.reads)

/-- Whether a stream may be written. -/
def mayWrite (world : World) (stream : Nat) : Bool :=
  world.streams[stream]?.any (·.writes)

/-- The world with the bytes of one of its streams elsewhere. -/
def turn (world : World) (stream : Nat) (change : Channel → Channel) : World :=
  { world with
    streams := world.streams.modify (world.base stream) fun stream =>
      { stream with channel := change stream.channel } }

/-! ## Reading -/

/-- The bytes that a stream holds, where there is an end of them. -/
def held (world : World) (stream : Nat) : Except IoError Octets :=
  match world.channel? stream with
  | none => .error .badDescriptor
  | some (.device _) => .ok []
  | some (.pipe pipe) => .ok pipe.content
  | some (.file location offset _) => .ok ((world.content location).drop offset)
  | some (.directory _) => .error .isADirectory
  | some (.shared _) => .error .badDescriptor

/-- The bytes that are left to read, where there is an end of them. -/
def unread (world : World) (stream : Nat) : Except IoError Octets :=
  if world.mayRead stream then world.held stream else .error .badDescriptor

/-- Whether there is no end of the bytes that are left to read. -/
def isEndless (world : World) (stream : Nat) : Bool :=
  world.mayRead stream &&
    match world.channel? stream with
    | some (.device device) => device.isEndless
    | _ => false

/-- The world after the given number of bytes was read. -/
def skip (world : World) (stream count : Nat) : World :=
  world.turn stream fun channel =>
    match channel with
    | .pipe pipe => .pipe (pipe.drop count)
    | .file location offset appends => .file location (offset + count) appends
    | other => other

/-- Whether a stream is a pipe with room for nothing more. -/
def isFull (world : World) (stream : Nat) : Bool :=
  match world.channel? stream with
  | some (.pipe pipe) => pipe.isFull
  | _ => false

/-- Whether a stream is a pipe with room for a limited number of bytes. -/
def isLimited (world : World) (stream : Nat) : Bool :=
  match world.channel? stream with
  | some (.pipe pipe) => pipe.room.isSome
  | _ => false

/-- Whether reading can go back: it can in files, and not in pipes. -/
def isSeekable (world : World) (stream : Nat) : Bool :=
  match world.channel? stream with
  | some (.pipe _) => false
  | _ => true

/-- Whether the bytes that are left to read in a stream are of the file that another one writes, so
that copying them would go on for ever. -/
def feedsItself (world : World) (input output : Nat) : Bool :=
  match world.channel? input, world.channel? output with
  | some (.file source offset _), some (.file target _ _) =>
    source == target && offset < world.length source
  | _, _ => false

/-! ## Waiting -/

/-- The world after a program read a stream to its end and wants more: where the stream lacks bytes,
the program waits for them. -/
def await (world : World) (stream : Nat) : World :=
  match world.channel? stream with
  | some (.pipe { lacks := some full, .. }) => { world with halt := some (.waiting full) }
  | _ => world

/-- The world where a program that waits, whose output goes to a stream, is left alone: what it
would still write there is missing. -/
def passOver (world : World) (stream : Nat) : World :=
  match world.halt with
  | some (.waiting full) =>
    { world with halt := none }.turn stream fun channel =>
      match channel with
      | .pipe pipe => .pipe (pipe.missing full)
      | other => other
  | _ => world

/-! ## Writing -/

/-- The bytes of a file after some were written at an offset. -/
def patched (old : Octets) (offset : Nat) (new : Octets) : Octets :=
  old.take offset ++ List.replicate (offset - old.length) '\x00' ++ new ++
    old.drop (offset + new.length)

/-- The world after bytes were written to a file at an offset. -/
def writeAt (world : World) (location : List EntryName) (offset : Nat) (new : Octets) : World :=
  let world := world.touch location
  let length := world.length location
  if offset = length && 0 < length then
    match world.ending with
    | some ending =>
      if ending.location = location then
        { world with ending := some ⟨location, length + new.length, new :: ending.texts⟩ }
      else { world.settled with ending := some ⟨location, length + new.length, [new]⟩ }
    | none => { world with ending := some ⟨location, length + new.length, [new]⟩ }
  else
    let world := world.settled
    let content := patched (world.content location) offset new
    { world with root := world.root.putAt (.file content) location }

/-- Writes some bytes to a stream, and says whether that was possible.  Nothing is written where the
program does not go on. -/
def write (world : World) (stream : Nat) (new : Octets) : Bool × World :=
  if world.mayWrite stream && world.halt.isNone then
    match world.channel? stream with
    | some (.device device) => (device != .full, world)
    | some (.pipe pipe) =>
      if pipe.isFull then
        let world := world.turn stream fun _ => .pipe (pipe.missing (world.base stream))
        (false, { world with halt := some (.killed ExitStatus.brokenPipe) })
      else (true, world.turn stream fun _ => .pipe (pipe.push new))
    | some (.file location offset appends) =>
      let start := if appends then world.length location else offset
      let world := world.writeAt location start new
      (true, world.turn stream fun _ => .file location (start + new.length) appends)
    | _ => (false, world)
  else (false, world)

/-- How many bytes a stream takes that is of a file, where files may have only so many. -/
def room? (world : World) (limit : Option Nat) (stream : Nat) : Option Nat :=
  match limit, world.channel? stream with
  | some limit, some (.file location offset appends) =>
    if world.mayWrite stream then
      some (limit - (if appends then world.length location else offset))
    else none
  | _, _ => none

/-- Writes as many of some bytes to a stream as a limit on files lets it, and says whether that was
all of them.  A signal comes where it was not. -/
def writeUpTo (world : World) (limit : Option Nat) (stream : Nat) (new : Octets) : Bool × World :=
  match world.room? limit stream with
  | none => world.write stream new
  | some room =>
    if new.length ≤ room then world.write stream new
    else
      let (_, world) := if room = 0 then (true, world) else world.write stream (new.take room)
      (false, { world with halt := world.halt.or (some (.killed ExitStatus.fileTooLarge)) })

/-- What is said when a stream cannot be written. -/
def obstacle (world : World) (stream : Nat) : String :=
  match world.channel? stream, world.mayWrite stream with
  | some (.file _ _ _), true => "File too large"
  | some (.pipe pipe), true => if pipe.isFull then "Broken pipe" else "Bad file descriptor"
  | some (.device .full), true => "No space left on device"
  | _, _ => "Bad file descriptor"

end World

end KernelCensus
