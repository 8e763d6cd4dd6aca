/-
# Tables

A table is a list of rows, each a key and a value.  Putting a row replaces the one of the same
key where it stands, and otherwise adds the row at the end, so rows keep the order in which
their keys first came.  Where keys differ, what is found at a key is what its row holds
(`lookup_eq_some_iff_mem`).
-/

namespace KernelCensus

namespace Table

variable {κ α : Type}

/-- The table with the given value at a key. -/
def put [DecidableEq κ] (key : κ) (value : α) : List (κ × α) → List (κ × α)
  | [] => [(key, value)]
  | row :: rows => if row.1 = key then (key, value) :: rows else row :: put key value rows

/-- The table without the rows of a key. -/
def erase [DecidableEq κ] (key : κ) (table : List (κ × α)) : List (κ × α) :=
  table.filter fun row => row.1 ≠ key

/-- What is found at a key is in a row of that key. -/
theorem mem_of_lookup [BEq κ] [LawfulBEq κ] {key : κ} {value : α} {table : List (κ × α)}
    (found : table.lookup key = some value) : (key, value) ∈ table := by
  obtain ⟨before, after, rfl, -⟩ := List.lookup_eq_some_iff.mp found
  exact List.mem_append_right _ List.mem_cons_self

/-- The keys at which something is found are those of the rows. -/
theorem isSome_lookup_iff [BEq κ] [LawfulBEq κ] {key : κ} {table : List (κ × α)} :
    (table.lookup key).isSome ↔ key ∈ table.map Prod.fst := by
  rw [List.lookup_isSome_iff, List.mem_map]
  constructor
  · rintro ⟨row, held, same⟩
    exact ⟨row, held, (eq_of_beq same).symm⟩
  · rintro ⟨row, held, rfl⟩
    exact ⟨row, held, beq_self_eq_true row.1⟩

/-- Where keys differ, every row is found at its key. -/
theorem lookup_eq_some_iff_mem [BEq κ] [LawfulBEq κ] {key : κ} {value : α} {table : List (κ × α)}
    (distinct : (table.map Prod.fst).Nodup) :
    table.lookup key = some value ↔ (key, value) ∈ table := by
  refine ⟨mem_of_lookup, fun held => ?_⟩
  obtain ⟨before, after, rfl⟩ := List.append_of_mem held
  refine List.lookup_eq_some_iff.mpr ⟨before, after, rfl, fun row earlier => ?_⟩
  rw [List.map_append, List.nodup_append] at distinct
  obtain ⟨-, -, apart⟩ := distinct
  exact bne_iff_ne.mpr (apart row.1 (List.mem_map_of_mem earlier) key (by simp)).symm

end Table

end KernelCensus
