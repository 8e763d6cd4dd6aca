/-
# The same tree

Two trees are the same if the same things are at the same locations (`Node.SameTree`); the order in
which a directory has its entries is no part of that.  Walks in such trees go the same ways
(`Walk.locate_congr`), and sound machines with such trees tell the same of all directories
(`Machine.directories_congr`).
-/
import KernelCensus.Proofs.Directory
import KernelCensus.Proofs.Sound

namespace KernelCensus

variable {α : Type}

namespace Node

/-- What is seen of a node without looking into directories. -/
def surface : Node α → Node α
  | dir _ => dir []
  | node => node

/-- The same things are at the same locations. -/
def SameTree (root other : Node α) : Prop :=
  ∀ location, (root.at? location).map surface = (other.at? location).map surface

variable {root other : Node α} {here : List EntryName}
  {entries entries' : List (EntryName × Node α)}

/-- What looks like a directory is one. -/
theorem exists_dir_of_surface {node : Node α} (h : node.surface = dir []) :
    ∃ entries, node = dir entries := by
  cases node with
  | dir entries => exact ⟨entries, rfl⟩
  | _ => cases h

/-- What looks like something else than a directory is that. -/
theorem eq_of_surface {node node' : Node α} (no_dir : ∀ entries, node ≠ dir entries)
    (h : node.surface = node'.surface) : node = node' := by
  cases node with
  | dir entries => exact absurd rfl (no_dir entries)
  | _ => cases node' <;> first | exact h | cases h

/-- Directories are the same trees if what they have under each name is. -/
theorem sameTree_dir (h : ∀ name location,
      ((entries.lookup name).bind fun child => child.at? location).map surface
        = ((entries'.lookup name).bind fun child => child.at? location).map surface) :
    (dir entries).SameTree (dir entries') := by
  intro location
  cases location with
  | nil => rfl
  | cons name rest => exact h name rest

/-- **The order of its entries does not matter for a directory.** -/
theorem sameTree_of_perm (distinct : (entries.map Prod.fst).Nodup) (order : entries.Perm entries') :
    (dir entries).SameTree (dir entries') := by
  have distinct' : (entries'.map Prod.fst).Nodup := (order.map Prod.fst).nodup_iff.mp distinct
  have found : ∀ name : EntryName, entries.lookup name = entries'.lookup name := by
    intro name
    refine Option.ext fun node => ?_
    rw [Table.lookup_eq_some_iff_mem distinct, Table.lookup_eq_some_iff_mem distinct',
      order.mem_iff]
  exact sameTree_dir fun name location => by rw [found name]

/-- Directories with the same trees under the same names, in one order, are the same trees. -/
theorem sameTree_of_forall₂ (each : List.Forall₂ (fun entry entry' => entry.1 = entry'.1
      ∧ entry.2.SameTree entry'.2) entries entries') :
    (dir entries).SameTree (dir entries') := by
  refine sameTree_dir fun name location => ?_
  induction each with
  | nil => rfl
  | @cons entry entry' _ _ first _ ih =>
    rw [List.lookup_cons, List.lookup_cons, ← first.1]
    cases name == entry.1 with
    | true => exact first.2 location
    | false => exact ih

theorem SameTree.symm (same : root.SameTree other) : other.SameTree root :=
  fun location => (same location).symm

/-- Where one tree has a directory, so has the other. -/
theorem SameTree.dir (same : root.SameTree other) (inside : root.at? here = some (dir entries)) :
    ∃ entries', other.at? here = some (Node.dir entries') := by
  have seen := same here
  rw [inside] at seen
  obtain ⟨node, there, surface⟩ := Option.map_eq_some_iff.mp seen.symm
  obtain ⟨entries', rfl⟩ := exists_dir_of_surface surface
  exact ⟨entries', there⟩

/-- Where one tree has something else than a directory, the other has the same. -/
theorem SameTree.leaf (same : root.SameTree other) {node : Node α}
    (there : root.at? here = some node) (no_dir : ∀ entries, node ≠ Node.dir entries) :
    other.at? here = some node := by
  have seen := same here
  rw [there] at seen
  obtain ⟨node', there', surface⟩ := Option.map_eq_some_iff.mp seen.symm
  rw [there', eq_of_surface no_dir surface.symm]

/-- Where one tree has nothing, neither has the other. -/
theorem SameTree.none (same : root.SameTree other) (nothing : root.at? here = .none) :
    other.at? here = .none := by
  have seen := same here
  rw [nothing] at seen
  exact Option.map_eq_none_iff.mp seen.symm

/-- Directories at one location have entries of the same names. -/
theorem SameTree.mem_names_iff (same : root.SameTree other)
    (inside : root.at? here = some (Node.dir entries))
    (inside' : other.at? here = some (Node.dir entries')) (name : EntryName) :
    name ∈ entries.map Prod.fst ↔ name ∈ entries'.map Prod.fst := by
  have seen := congrArg Option.isSome (same (here ++ [name]))
  rw [at?_concat inside, at?_concat inside', Option.isSome_map, Option.isSome_map] at seen
  rw [← Table.isSome_lookup_iff, ← Table.isSome_lookup_iff, seen]

/-- What one directory lacks, the other at its location lacks. -/
theorem SameTree.lookup_none (same : root.SameTree other)
    (inside : root.at? here = some (Node.dir entries))
    (inside' : other.at? here = some (Node.dir entries')) {name : EntryName}
    (lacks : entries.lookup name = .none) : entries'.lookup name = .none := by
  rw [← at?_concat inside] at lacks
  rw [← at?_concat inside']
  exact same.none lacks

/-- A link in one directory is in the other at its location. -/
theorem SameTree.lookup_link (same : root.SameTree other)
    (inside : root.at? here = some (Node.dir entries))
    (inside' : other.at? here = some (Node.dir entries')) {name : EntryName} {target : List UInt8}
    (found : entries.lookup name = some (link target)) :
    entries'.lookup name = some (link target) := by
  rw [← at?_concat inside] at found
  rw [← at?_concat inside']
  exact same.leaf found fun _ h => (by cases h)

/-- What is no link in one directory is none in the other at its location. -/
theorem SameTree.lookup_no_link (same : root.SameTree other)
    (inside : root.at? here = some (Node.dir entries))
    (inside' : other.at? here = some (Node.dir entries')) {name : EntryName} {node : Node α}
    (found : entries.lookup name = some node) (no_link : ∀ target, node ≠ link target) :
    ∃ node', entries'.lookup name = some node' ∧ ∀ target, node' ≠ link target := by
  cases found' : entries'.lookup name with
  | none => cases (same.symm.lookup_none inside' inside found').symm.trans found
  | some node' =>
    refine ⟨node', rfl, ?_⟩
    rintro target rfl
    cases (same.symm.lookup_link inside' inside found').symm.trans found
    exact no_link target rfl

end Node

namespace Walk

variable {root other : Node α}

/-- **Walks in the same tree go the same ways**, and meet the same obstacles. -/
theorem along_congr (same : root.SameTree other) (links : Nat) (here trail : List EntryName) :
    along root links here trail = along other links here trail := by
  -- The cases are those of `along`; where it goes on, a step of the other tree does.
  fun_induction along root links here trail with
  | case1 => rw [along]
  | case2 links here rest entries inside ih =>
    obtain ⟨entries', inside'⟩ := same.dir inside
    rw [ih, along_of_step_zero (.stay inside')]
  | case3 links here rest entries inside _ ih =>
    obtain ⟨entries', inside'⟩ := same.dir inside
    rw [ih, along_of_step_zero (.up inside')]
  | case4 links here step rest entries inside ne_dot ne_dotDot long =>
    obtain ⟨entries', inside'⟩ := same.dir inside
    rw [along, inside']
    simp only [if_neg ne_dot, if_neg ne_dotDot, if_pos long]
  | case5 links here step rest entries inside ne_dot ne_dotDot short lacks =>
    obtain ⟨entries', inside'⟩ := same.dir inside
    rw [along, inside']
    simp only [if_neg ne_dot, if_neg ne_dotDot, if_neg short,
      same.lookup_none inside inside' lacks]
  | case6 here step rest entries inside ne_dot ne_dotDot short target found =>
    obtain ⟨entries', inside'⟩ := same.dir inside
    rw [along, inside']
    simp only [if_neg ne_dot, if_neg ne_dotDot, if_neg short,
      same.lookup_link inside inside' found]
  | case7 here step rest entries inside ne_dot ne_dotDot short target found left ih =>
    obtain ⟨entries', inside'⟩ := same.dir inside
    have named : IsNamed step := ⟨ne_dot, ne_dotDot, Nat.not_lt.mp short⟩
    rw [ih, ← along_step (.follow inside' named (same.lookup_link inside inside' found)),
      Nat.add_comm]
  | case8 links here step rest entries inside ne_dot ne_dotDot short node no_link found ih =>
    obtain ⟨entries', inside'⟩ := same.dir inside
    obtain ⟨node', found', no_link'⟩ := same.lookup_no_link inside inside' found no_link
    have named : IsNamed step := ⟨ne_dot, ne_dotDot, Nat.not_lt.mp short⟩
    rw [ih, along_of_step_zero (.enter inside' named found' no_link')]
  | case9 links here step rest no_dir =>
    have no_dir' : ∀ entries', other.at? here ≠ some (.dir entries') := by
      intro entries' inside'
      obtain ⟨entries, inside⟩ := same.symm.dir inside'
      exact no_dir entries inside
    rw [along]
    split
    · next entries' inside' => exact absurd inside' (no_dir' entries')
    · rfl

/-- **The same tree has the same locations of paths.** -/
theorem locate_congr (same : root.SameTree other) (here : List EntryName) (path : List UInt8) :
    locate root here path = locate other here path := by
  rw [locate, locate, along_congr same]

end Walk

namespace Machine

variable {machine other : Machine α}

/-- The names in order of directories with the same names are the same. -/
theorem sortedNames_congr {entries entries' : List (EntryName × Node α)}
    (distinct : (entries.map Prod.fst).Nodup) (distinct' : (entries'.map Prod.fst).Nodup)
    (names : ∀ name, name ∈ entries.map Prod.fst ↔ name ∈ entries'.map Prod.fst) :
    sortedNames entries = sortedNames entries' := by
  have same : (entries.map Prod.fst).Perm (entries'.map Prod.fst) :=
    (List.perm_ext_iff_of_nodup distinct distinct').mpr names
  have order : (sortedNames entries).Perm (sortedNames entries') :=
    (sortedNames_perm entries).trans (same.trans (sortedNames_perm entries').symm)
  refine order.eq_of_pairwise ?_ (pairwise_sortedNames entries) (pairwise_sortedNames entries')
  exact fun _ _ _ _ before after => List.le_antisymm before after

/-- Directories with the same names are both empty or both not. -/
theorem isEmpty_congr {entries entries' : List (EntryName × Node α)}
    (names : ∀ name, name ∈ entries.map Prod.fst ↔ name ∈ entries'.map Prod.fst) :
    entries.isEmpty = entries'.isEmpty := by
  have none_iff : ∀ entries : List (EntryName × Node α),
      entries.isEmpty = true ↔ ∀ name, name ∉ entries.map Prod.fst := by
    intro entries
    rw [List.isEmpty_iff, ← List.map_eq_nil_iff, List.eq_nil_iff_forall_not_mem]
  rw [Bool.eq_iff_iff, none_iff, none_iff]
  exact forall_congr' fun name => not_congr (names name)

/-- A path leads to a directory at one location of both trees, or to the same in both. -/
theorem node_congr (same : machine.root.SameTree other.root) (here : machine.here = other.here)
    (path : Path) :
    (∃ location entries entries', machine.root.at? location = some (.dir entries)
      ∧ other.root.at? location = some (.dir entries')
      ∧ machine.node path = .ok (.dir entries) ∧ other.node path = .ok (.dir entries'))
    ∨ machine.node path = other.node path := by
  rw [node, node, nodeAt, nodeAt, here, Walk.locate_congr same]
  cases Walk.locate other.root other.here (Utf8.encode path.text) with
  | error e => exact Or.inr rfl
  | ok location =>
    rw [Outcome.ok_bind, Outcome.ok_bind]
    cases there : machine.root.at? location with
    | none =>
      rw [same.none there]
      exact Or.inr rfl
    | some node =>
      by_cases is_dir : ∃ entries, node = .dir entries
      · obtain ⟨entries, rfl⟩ := is_dir
        obtain ⟨entries', there'⟩ := same.dir there
        rw [there']
        exact Or.inl ⟨location, entries, entries', there, there', rfl, rfl⟩
      · rw [same.leaf there fun entries h => is_dir ⟨entries, h⟩]
        exact Or.inr rfl

/-- **Sound machines with the same tree tell the same of all directories.** -/
theorem directories_congr (sound : machine.root.IsSound) (sound' : other.root.IsSound)
    (same : machine.root.SameTree other.root) (here : machine.here = other.here) :
    machine.directories = other.directories := by
  have told : ∀ path, machine.list path = other.list path
      ∧ machine.isEmpty path = other.isEmpty path := by
    intro path
    rw [list, list, isEmpty, isEmpty]
    rcases node_congr same here path with
      ⟨location, entries, entries', there, there', found, found'⟩ | found
    · have names := same.mem_names_iff there there'
      have sorted := sortedNames_congr (sound.of_at? there).distinct (sound'.of_at? there').distinct
        names
      rw [found, found', Outcome.ok_bind, Outcome.ok_bind, Outcome.ok_bind, Outcome.ok_bind]
      exact ⟨congrArg (List.mapM (entryText path)) sorted, congrArg Except.ok (isEmpty_congr names)⟩
    · rw [found]
      exact ⟨rfl, rfl⟩
  rw [directories, directories]
  congr 1
  · exact funext fun path => (told path).1
  · exact funext fun path => (told path).2

end Machine

end KernelCensus
