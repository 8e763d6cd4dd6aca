/-
# Names in a listing

A machine whose directories have entries of proper names lists only names that a path can name an
entry with (`IsTidy.listsEntryNames`): reading the bytes of a name as text changes nothing of that.
-/
import KernelCensus.Machine.Basic
import KernelCensus.Proofs.Outcome
import KernelCensus.Proofs.Path
import KernelCensus.Proofs.Utf8

namespace KernelCensus

variable {α : Type}

/-! ## Proper names -/

/-- What a file tree lets name an entry: bytes that are not empty, have no slash, and are neither of
the two steps that every directory has anyway. -/
structure IsFileName (name : EntryName) : Prop where
  ne_nil : name ≠ []
  no_slash : Walk.slash ∉ name
  ne_dot : name ≠ Walk.dot
  ne_dotDot : name ≠ Walk.dotDot

instance (name : EntryName) : Decidable (IsFileName name) :=
  decidable_of_iff
    (name ≠ [] ∧ Walk.slash ∉ name ∧ name ≠ Walk.dot ∧ name ≠ Walk.dotDot)
    ⟨fun h => ⟨h.1, h.2.1, h.2.2.1, h.2.2.2⟩, fun h => ⟨h.1, h.2, h.3, h.4⟩⟩

/-- A proper name that is text names an entry below a path. -/
theorem IsFileName.isEntryName {name : EntryName} {text : String} (proper : IsFileName name)
    (read : Utf8.decode name = .ok text) : Path.IsEntryName text := by
  have bytes : Utf8.encode text = name := Utf8.encode_of_decode read
  have differs : ∀ other, Utf8.encode other ≠ name → text ≠ other := by
    intro other apart same
    rw [same] at bytes
    exact apart bytes
  refine ⟨differs _ ?_, ?_, differs _ ?_, differs _ ?_⟩
  · exact fun none => proper.ne_nil none.symm
  · intro slash
    apply proper.no_slash
    rw [← bytes]
    exact List.mem_flatMap.mpr ⟨'/', slash, by decide⟩
  · exact fun dot => proper.ne_dot dot.symm
  · exact fun dotDot => proper.ne_dotDot dotDot.symm

/-- Directories of which a listing names entries only. -/
def Directories.ListsEntryNames (dirs : Directories) : Prop :=
  ∀ directory names, dirs.list directory = .ok names → ∀ name ∈ names, Path.IsEntryName name

namespace Machine

/-- A machine all of whose directories have entries of proper names. -/
def IsTidy (machine : Machine α) : Prop :=
  ∀ location entries, machine.root.at? location = some (.dir entries) →
    ∀ entry ∈ entries, IsFileName entry.1

/-- The name of an entry is shown as the text that its bytes are. -/
theorem decode_of_entryText {directory : Path} {name : EntryName} {text : String}
    (h : entryText directory name = .ok text) : Utf8.decode name = .ok text := by
  rw [entryText] at h
  split at h
  · next read => rw [read, Except.ok.inj h]
  · cases h

/-- What is found along a path is at some location. -/
theorem exists_at_of_nodeAt {machine : Machine α} {path : List UInt8} {node : Node α}
    (h : machine.nodeAt path = .ok node) : ∃ location, machine.root.at? location = some node := by
  obtain ⟨location, -, found⟩ := Outcome.bind_eq_ok_iff.mp h
  split at found
  · next node' there => exact ⟨location, by rw [there, Except.ok.inj found]⟩
  · cases found

/-- **A tidy machine lists names of entries only.** -/
theorem IsTidy.listsEntryNames {machine : Machine α} (tidy : machine.IsTidy) :
    machine.directories.ListsEntryNames := by
  intro directory names listed name member
  obtain ⟨node, found, shown_all⟩ := Outcome.bind_eq_ok_iff.mp listed
  obtain ⟨location, there⟩ := exists_at_of_nodeAt found
  cases node with
  | dir entries =>
    obtain ⟨bytes, among, shown⟩ := Outcome.exists_of_mem_mapM shown_all member
    obtain ⟨entry, held, rfl⟩ := List.mem_map.mp (List.mem_mergeSort.mp among)
    exact (tidy location entries there entry held).isEntryName (decode_of_entryText shown)
  | _ => cases shown_all

end Machine

end KernelCensus
