/-
# Sound trees

In a sound tree every directory has entries of proper names, no two of one name, and of sound nodes
(`Node.IsSound`).  What is at a location of a sound tree is sound (`Node.IsSound.of_at?`).
-/
import KernelCensus.Table
import KernelCensus.Proofs.Listing

namespace KernelCensus

variable {α : Type}

namespace Node

/-- A node whose directories have proper names, each of them once. -/
inductive IsSound : Node α → Prop
  | leaf {node : Node α} (no_dir : ∀ entries, node ≠ .dir entries) : IsSound node
  | dir {entries : List (EntryName × Node α)} (proper : ∀ entry ∈ entries, IsFileName entry.1)
    (distinct : (entries.map Prod.fst).Nodup) (below : ∀ entry ∈ entries, IsSound entry.2) :
    IsSound (.dir entries)

variable {node : Node α} {entries : List (EntryName × Node α)}

/-- What makes a directory sound. -/
theorem isSound_dir_iff : (dir entries).IsSound ↔ (∀ entry ∈ entries, IsFileName entry.1)
    ∧ (entries.map Prod.fst).Nodup ∧ ∀ entry ∈ entries, entry.2.IsSound := by
  constructor
  · intro sound
    cases sound with
    | leaf no_dir => exact absurd rfl (no_dir entries)
    | dir proper distinct below => exact ⟨proper, distinct, below⟩
  · rintro ⟨proper, distinct, below⟩
    exact .dir proper distinct below

/-- An empty directory is sound. -/
theorem isSound_empty : (dir [] : Node α).IsSound :=
  isSound_dir_iff.mpr ⟨by simp, by simp, by simp⟩

/-- A directory of one entry is sound if the name is proper and the entry sound. -/
theorem isSound_singleton {name : EntryName} (proper : IsFileName name) (sound : node.IsSound) :
    (dir [(name, node)]).IsSound :=
  isSound_dir_iff.mpr
    ⟨List.forall_mem_singleton.mpr proper, by simp, List.forall_mem_singleton.mpr sound⟩

/-- The names of a sound directory are proper. -/
theorem IsSound.proper (sound : (Node.dir entries).IsSound) {name : EntryName}
    (member : name ∈ entries.map Prod.fst) : IsFileName name := by
  obtain ⟨entry, held, rfl⟩ := List.mem_map.mp member
  exact (isSound_dir_iff.mp sound).1 entry held

/-- No two entries of a sound directory have one name. -/
theorem IsSound.distinct (sound : (Node.dir entries).IsSound) : (entries.map Prod.fst).Nodup :=
  (isSound_dir_iff.mp sound).2.1

/-- The entries of a sound directory are sound. -/
theorem IsSound.of_mem (sound : (Node.dir entries).IsSound) {entry : EntryName × Node α}
    (held : entry ∈ entries) : entry.2.IsSound :=
  (isSound_dir_iff.mp sound).2.2 entry held

/-- A sound directory with its entries in another order is sound. -/
theorem IsSound.perm {entries' : List (EntryName × Node α)} (sound : (Node.dir entries).IsSound)
    (order : entries.Perm entries') : (Node.dir entries').IsSound := by
  obtain ⟨proper, distinct, below⟩ := isSound_dir_iff.mp sound
  refine .dir (fun entry held => proper entry (order.mem_iff.mpr held)) ?_
    fun entry held => below entry (order.mem_iff.mpr held)
  exact (order.map Prod.fst).nodup_iff.mp distinct

/-- **What is at a location of a sound tree is sound.** -/
theorem IsSound.of_at? {location : List EntryName} {root : Node α} (sound : root.IsSound)
    (there : root.at? location = some node) : node.IsSound := by
  induction location generalizing root with
  | nil =>
    cases there
    exact sound
  | cons name rest ih =>
    obtain ⟨child, found, below⟩ := Option.bind_eq_some_iff.mp there
    cases root with
    | dir entries =>
      exact ih (sound.of_mem (Table.mem_of_lookup found)) below
    | _ => cases found

end Node

end KernelCensus
