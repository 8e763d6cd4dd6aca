/-
# Opening files

A process sees the tree with the processes in it: each has a directory, and the own one is behind a
link.  What stands there for the open descriptors leads to what is open.  A process opens files of
the tree that it sees.
-/
import KernelCensus.Simulation.World

namespace KernelCensus

namespace IoError

/-- The process has too many open descriptors. -/
def tooManyFiles : IoError := { kind := .other, message := "Too many open files (os error 24)" }

end IoError

/-- How a stream is opened. -/
inductive Access
  | read
  | write
  | append
  | both
  deriving DecidableEq, Repr

namespace World

/-! ## Processes in the tree -/

/-- The path of a location. -/
def pathTo (location : List EntryName) : List UInt8 :=
  if location.isEmpty then [Walk.slash] else location.flatMap (Walk.slash :: ·)

/-- A path as it is from the root, which is taken from a location. -/
def absolute (here : List EntryName) (path : Octets) : Octets :=
  if path.head? = some '/' then path else Octets.ofBytes (pathTo here) ++ '/' :: path

/-- What stands for an open stream in a tree: a link to where its bytes are, or the pipe that they
are in. -/
def entryOf (world : World) (stream : Nat) : Option FileTree :=
  match world.channel? stream with
  | some (.device device) => some (.link (Utf8.encode ("/dev/" ++ device.name)))
  | some (.pipe _) => some (.pipe (world.base stream))
  | some (.file location _ _) => some (.link (pathTo location))
  | some (.directory location) => some (.link (pathTo location))
  | _ => none

/-- The name of an entry that is a number. -/
def numberName (number : Nat) : EntryName :=
  (Octets.ofNat number).toBytes

/-- The directory of a process. -/
def processNode (world : World) (invocation : Invocation) : FileTree :=
  let descriptors := invocation.descriptors.filterMap fun (descriptor, stream) =>
    (world.entryOf stream).map fun node => (numberName descriptor, node)
  let settings := invocation.environment.map fun (name, value) => name ++ '=' :: value
  .dir
    [(Utf8.encode "cwd", .link (pathTo invocation.here)),
      (Utf8.encode "root", .link [Walk.slash]),
      (Utf8.encode "exe", .link invocation.path.toBytes),
      (Utf8.encode "comm", .record [invocation.title] '\n'),
      (Utf8.encode "cmdline", .record (invocation.name :: invocation.arguments) '\x00'),
      (Utf8.encode "environ", .record settings '\x00'),
      (Utf8.encode "status", .record invocation.status '\n'),
      (Utf8.encode "fd", .dir descriptors)]

/-- The number of a process that sees the tree. -/
def numberOf (world : World) (invocation : Invocation) : Nat :=
  invocation.number.getD (world.processes + 1)

/-- The tree as a process sees it. -/
def seen (world : World) (invocation : Invocation) : FileTree :=
  let number := world.numberOf invocation
  let others := world.alive.filter (·.1 ≠ number)
  let named := ((number, invocation) :: others).map fun (number, invocation) =>
    (numberName number, world.processNode invocation)
  let self := (Utf8.encode "self", Node.link (numberName number))
  let kept :=
    match world.root.at? [processesPlace] with
    | some (.dir entries) => entries
    | _ => []
  world.root.putAt (.dir (self :: named ++ kept)) [processesPlace]

/-- The tree as a process sees it while it reads the names in a directory, for which it holds one
more descriptor. -/
def seenListing (world : World) (invocation : Invocation) : FileTree :=
  let place := [processesPlace, numberName (world.numberOf invocation), Utf8.encode "fd"]
  (world.seen invocation).putAt (.link (pathTo place))
    (place ++ [numberName invocation.freeDescriptor])

/-! ## Opening -/

/-- The tree where nothing can be seen of processes. -/
def withoutProcesses (world : World) : FileTree :=
  world.root.putAt (.record [] '\n') [processesPlace]

/-- The tree as a process sees it that takes a walk: that without the processes unless the walk
comes to them, where it would find no directory. -/
def seenFor (world : World) (invocation : Invocation)
    (walk : FileTree → Except IoError (List EntryName)) : FileTree :=
  match walk world.withoutProcesses with
  | .ok location =>
    if location.head? = some processesPlace then world.seen invocation else world.root
  | .error error =>
    if error.kind = .notADirectory then world.seen invocation else world.root

/-- What finds where a path leads, and what is there. -/
abbrev Look := Octets → Except IoError (List EntryName × FileTree)

/-- How a process looks along paths. -/
def look (world : World) (invocation : Invocation) : Look := fun path => do
  let walk (root : FileTree) : Except IoError (List EntryName) :=
    Walk.locate root invocation.here path.toBytes
  let root := world.seenFor invocation walk
  let location ← walk root
  match root.at? location with
  | some node => .ok (location, node)
  | none => .error .noEntry

/-- What a process sees at a path where a last link is not followed. -/
def lookBeside (world : World) (invocation : Invocation) (path : Octets) : Option FileTree :=
  let steps := Walk.steps path.toBytes
  match steps.getLast? with
  | none => none
  | some last =>
    let walk (root : FileTree) : Except IoError (List EntryName) :=
      Walk.along root Walk.maxLinks (Walk.start invocation.here path.toBytes) steps.dropLast
    let root := world.seenFor invocation walk
    match walk root with
    | .ok parent => root.at? (parent ++ [last])
    | .error _ => none

/-- The location of a file that is opened for writing: links are followed, even to where nothing
is yet, as long as that is in a directory other than those of processes. -/
def landing (root : FileTree) (here : List EntryName) (path : List UInt8) :
    Except IoError (List EntryName) := do
  Walk.checkPath path
  let steps := Walk.steps path
  match steps.getLast? with
  | none => .error .isADirectory
  | some last =>
    let asksDirectory := path.getLast? = some Walk.slash
    let front := if asksDirectory then steps.dropLast.dropLast else steps.dropLast
    let parent ← Walk.along root Walk.maxLinks (Walk.start here path) front
    let (_, location) ← Walk.makeAlong root Walk.maxLinks parent [last]
    match root.at? (if asksDirectory then parent else location.dropLast) with
    | some (.dir _) =>
      if asksDirectory then .error .isADirectory
      else if (root.at? location).isNone && location.head? = some processesPlace then
        .error .noEntry
      else .ok location
    | some _ => .error .notADirectory
    | none => .error .noEntry

/-- The world with an empty file at a location. -/
def writeEmpty (world : World) (location : List EntryName) : World :=
  let world := world.settled
  let isNew := (world.root.at? location).isNone
  let world := { world with root := world.root.putAt (.file []) location }.touch location
  if isNew then world.touch location.dropLast else world

/-- How a world opens something: the world after that, and the number of the stream. -/
abbrev Opener := World → World × Nat

/-- Opens a device; a terminal is not there. -/
def deviceOpener (device : Device) (reads writes : Bool) : Except IoError Opener :=
  if device = .terminal then .error .noDevice
  else .ok fun world => world.add ⟨.device device, reads, writes⟩

/-- Opens what is at a location for reading. -/
def reader (location : List EntryName) : Option FileTree → Except IoError Opener
  | some (.dir _) => .ok fun world => world.add ⟨.directory location, true, false⟩
  | some (.device device) => deviceOpener device true false
  | some (.pipe stream) => .ok fun world => world.add (.pipeEnd stream)
  | some (.record texts mark) => .ok fun world => world.add (.text (Node.recorded texts mark))
  | some _ => .ok fun world => world.settled.add ⟨.file location 0 false, true, false⟩
  | none => .error .noEntry

/-- Opens what is at a location for writing, and perhaps for reading, too. -/
def writer (location : List EntryName) (access : Access) (found : Option FileTree) :
    Except IoError Opener :=
  let reads := access == Access.both
  match found with
  | some (.dir _) => .error .isADirectory
  | some (.device device) => deviceOpener device reads true
  | some (.pipe stream) => .ok fun world => world.add ⟨.shared stream, reads, true⟩
  | some (.record _ _) => .ok fun world => world.add ⟨.pipe {}, reads, false⟩
  | found =>
    let keeps := found.isSome && access ≠ .write
    let channel : Channel := .file location 0 (access == Access.append)
    .ok fun world => (if keeps then world else world.writeEmpty location).add ⟨channel, reads, true⟩

/-- How a process opens the file at a path. -/
def opener (world : World) (invocation : Invocation) (path : Octets) (access : Access) :
    Except IoError Opener := do
  if !invocation.mayOpen then .error .tooManyFiles
  let walk (root : FileTree) : Except IoError (List EntryName) :=
    if access = .read then Walk.locate root invocation.here path.toBytes
    else landing root invocation.here path.toBytes
  let root := world.seenFor invocation walk
  let location ← walk root
  if access = .read then reader location (root.at? location)
  else writer location access (root.at? location)

/-- Opens the file at a path for a process: the number of the stream, and the world after that. -/
def openFile (world : World) (invocation : Invocation) (path : Octets) (access : Access) :
    Except IoError Nat × World :=
  match world.opener invocation path access with
  | .ok opener =>
    let (world, stream) := opener world
    (.ok stream, world)
  | .error error => (.error error, world)

end World

end KernelCensus
