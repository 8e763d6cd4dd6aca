/-
# Simulated file trees

The leaves of a simulated file tree are files, devices, executables of a few known programs, and
what a process sees of itself and of others.  Trees are changed one location at a time.
-/
import KernelCensus.Machine.Node
import KernelCensus.Simulation.Text.Octets
import KernelCensus.Table

namespace KernelCensus

/-! ## Leaves -/

/-- The programs that a machine may hold. -/
inductive Program
  | succeed
  | fail
  | echo
  | printf
  | cat
  | head
  | shell
  /-- Prints the given release when its only argument is `-r`, and `Linux` otherwise. -/
  | uname (release : String)
  deriving DecidableEq, Repr

/-- The devices: one that is always empty, three from which zeros are read without end, and a
terminal, of which there is none.  What the random one gives might be anything; zeros stand for it.
All that is written to a device is taken, but one has room for nothing. -/
inductive Device
  | null
  | zero
  | full
  | random
  | terminal
  deriving DecidableEq, Repr

/-- Whether reading a device has no end. -/
def Device.isEndless : Device → Bool
  | null => false
  | zero => true
  | full => true
  | random => true
  | terminal => false

/-- The name of a device. -/
def Device.name : Device → String
  | null => "null"
  | zero => "zero"
  | full => "full"
  | random => "random"
  | terminal => "tty"

/-- A file, a device, an executable, the pipe of a number, as a process sees one that it holds, or a
record: some texts, each with a mark after it, that can be read but have no length. -/
inductive Leaf
  | file (content : Octets)
  | device (device : Device)
  | executable (program : Program)
  | pipe (stream : Nat)
  | record (texts : List Octets) (mark : Char)

/-- A file tree with such leaves. -/
abbrev FileTree := Node Leaf

namespace Node

/-- A file. -/
@[match_pattern]
abbrev file (content : Octets) : FileTree := leaf (.file content)

/-- A device. -/
@[match_pattern]
abbrev device (device : Device) : FileTree := leaf (.device device)

/-- An executable. -/
@[match_pattern]
abbrev executable (program : Program) : FileTree := leaf (.executable program)

/-- A pipe. -/
@[match_pattern]
abbrev pipe (stream : Nat) : FileTree := leaf (.pipe stream)

/-- A record. -/
@[match_pattern]
abbrev record (texts : List Octets) (mark : Char) : FileTree := leaf (.record texts mark)

/-- The bytes of a record. -/
def recorded (texts : List Octets) (mark : Char) : Octets :=
  texts.flatMap (· ++ [mark])

/-! ## Changes -/

/-- The tree with the given node at a location whose parent is a directory; elsewhere nothing
changes. -/
def putAt (node : FileTree) (new : FileTree) : List EntryName → FileTree
  | [] => new
  | name :: rest =>
    match node with
    | dir entries =>
      match rest, entries.lookup name with
      | [], _ => dir (Table.put name new entries)
      | _, some child => dir (Table.put name (putAt child new rest) entries)
      | _, none => node
    | _ => node

/-- The tree without the node at a location below its root. -/
def eraseAt (node : FileTree) : List EntryName → FileTree
  | [] => node
  | name :: rest =>
    match node with
    | dir entries =>
      match rest, entries.lookup name with
      | [], _ => dir (Table.erase name entries)
      | _, some child => dir (Table.put name (eraseAt child rest) entries)
      | _, none => node
    | _ => node

end Node

end KernelCensus
