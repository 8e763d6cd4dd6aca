/-
# File trees

A tree of directories and symbolic links; whatever else it has are its leaves, of which nothing is
said here.  The name of an entry is a list of bytes that need not be text.
-/

namespace KernelCensus

/-- The name of a directory entry. -/
abbrev EntryName := List UInt8

/-- A leaf, a symbolic link with its target, or a directory with its entries. -/
inductive Node (α : Type)
  | leaf (content : α)
  | link (target : List UInt8)
  | dir (entries : List (EntryName × Node α))

namespace Node

variable {α : Type}

instance : Inhabited (Node α) :=
  ⟨dir []⟩

/-- The entry of a directory by name. -/
def child? : Node α → EntryName → Option (Node α)
  | dir entries, name => entries.lookup name
  | _, _ => none

/-- The node at a location, which is a list of names read downwards; links are not followed. -/
def at? (node : Node α) : List EntryName → Option (Node α)
  | [] => some node
  | name :: rest => (node.child? name).bind fun child => child.at? rest

end Node

end KernelCensus
