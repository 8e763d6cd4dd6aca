/-
# The census of a machine

What a scan of a machine's module tree finds is told by the file tree: where the paths of the module
tree and of its entries lead, and what the entries are called.  It fails if the module tree is no
directory, if an entry has a name that is no text, or with the first entry that is no directory, in
the order of bytes; otherwise it keeps the names of the directories that are not empty, in that
order (`scan_determined`).
-/
import Mathlib
import KernelCensus.Proofs.Reordering
import KernelCensus.Proofs.SameTree

namespace KernelCensus

namespace Machine

variable {α : Type} {machine : Machine α} {parent : Path}
  {entries : List (EntryName × Node α)} {name : String}

/-! ## Entries of a directory -/

/-- Some entry has a name that is no text. -/
def HasStrangeName (entries : List (EntryName × Node α)) : Prop :=
  ∃ name ∈ entries.map Prod.fst, ∀ text, Utf8.encode text ≠ name

/-- The path of an entry leads to no directory. -/
structure IsShut (machine : Machine α) (parent : Path) (entries : List (EntryName × Node α))
    (name : String) : Prop where
  listed : Utf8.encode name ∈ entries.map Prod.fst
  shut : ∀ inner, ¬ machine.LeadsTo (parent.entry name) (.dir inner)

/-- The path of an entry leads to a directory that is not empty. -/
structure IsFilled (machine : Machine α) (parent : Path) (entries : List (EntryName × Node α))
    (name : String) : Prop where
  listed : Utf8.encode name ∈ entries.map Prod.fst
  filled : ∃ inner ≠ [], machine.LeadsTo (parent.entry name) (.dir inner)

/-! ## Listings -/

/-- What is no directory is not listed. -/
theorem exists_list_eq_error (no_dir : ∀ entries, ¬ machine.LeadsTo parent (.dir entries)) :
    ∃ e, machine.list parent = .error e := by
  cases listing : machine.list parent with
  | error e => exact ⟨e, rfl⟩
  | ok names =>
    obtain ⟨entries, leads, -⟩ := list_eq_ok_iff.mp listing
    exact absurd leads (no_dir entries)

/-- The entries of a directory that is listed are those that are found there. -/
theorem encode_of_list {names : List String} (listing : machine.list parent = .ok names)
    (leads : machine.LeadsTo parent (.dir entries)) :
    names.map Utf8.encode = sortedNames entries := by
  obtain ⟨entries', leads', bytes⟩ := list_eq_ok_iff.mp listing
  cases leads.unique leads'
  exact bytes

/-- A directory is listed if all of its names are texts. -/
theorem exists_list_eq_ok_iff (leads : machine.LeadsTo parent (.dir entries)) :
    (∃ names, machine.list parent = .ok names) ↔ ¬ HasStrangeName entries := by
  have same : ∀ name, name ∈ sortedNames entries ↔ name ∈ entries.map Prod.fst :=
    fun _ => (sortedNames_perm entries).mem_iff
  constructor
  · rintro ⟨names, listing⟩ ⟨name, member, strange⟩
    rw [← same, ← encode_of_list listing leads] at member
    obtain ⟨text, -, bytes⟩ := List.mem_map.mp member
    exact strange text bytes
  · intro plain
    -- Names that are all texts are shown one after the other.
    have text_of : ∀ name ∈ sortedNames entries, ∃ text, entryText parent name = .ok text := by
      intro name member
      by_contra none
      refine plain ⟨name, (same name).mp member, fun text bytes => none ⟨text, ?_⟩⟩
      exact entryText_eq_ok_iff.mpr bytes
    obtain ⟨names, shown⟩ := Outcome.exists_mapM_eq_ok_iff.mpr text_of
    exact ⟨names, list_eq_ok_iff.mpr ⟨entries, leads, mapM_entryText_eq_ok_iff.mp shown⟩⟩

/-- A listing has the names of the entries. -/
theorem mem_of_list {names : List String} (listing : machine.list parent = .ok names)
    (leads : machine.LeadsTo parent (.dir entries)) :
    name ∈ names ↔ Utf8.encode name ∈ entries.map Prod.fst := by
  rw [← (sortedNames_perm entries).mem_iff, ← encode_of_list listing leads,
    List.mem_map_of_injective Utf8.encode_injective]

/-- A listing of a sound tree ascends in the order of bytes. -/
theorem pairwise_of_list (sound : machine.root.IsSound) {names : List String}
    (listing : machine.list parent = .ok names) :
    names.Pairwise fun name other => Utf8.encode name < Utf8.encode other := by
  obtain ⟨entries, ⟨_, _, location, _, held⟩, bytes⟩ := list_eq_ok_iff.mp listing
  have distinct : (sortedNames entries).Nodup :=
    (sortedNames_perm entries).nodup_iff.mpr (sound.of_at? held).distinct
  have ascending : (sortedNames entries).Pairwise (· < ·) :=
    (pairwise_sortedNames entries).imp₂ (fun _ _ before apart =>
      Std.lt_of_le_of_ne before apart) distinct
  rw [← bytes, List.pairwise_map] at ascending
  exact ascending

/-! ## Probes -/

/-- Entries that were answered are not shut. -/
theorem not_isShut_of_answers {answers : List (String × Bool)}
    (all : ModuleTree.Answers machine.directories parent answers)
    (member : name ∈ answers.map Prod.fst) : ¬ machine.IsShut parent entries name := by
  rintro ⟨-, shut⟩
  obtain ⟨answer, among, rfl⟩ := List.mem_map.mp member
  obtain ⟨inner, leads, -⟩ := isEmpty_eq_ok_iff.mp (all answer among)
  exact shut inner leads

/-- What is kept of the answers are the entries that are not empty. -/
theorem mem_kept_iff {answers : List (String × Bool)}
    (all : ModuleTree.Answers machine.directories parent answers) :
    name ∈ ModuleTree.kept answers ↔ name ∈ answers.map Prod.fst
      ∧ ∃ inner ≠ [], machine.LeadsTo (parent.entry name) (.dir inner) := by
  rw [ModuleTree.kept_eq_filter all, List.mem_filter]
  refine and_congr_right fun member => ?_
  obtain ⟨answer, among, rfl⟩ := List.mem_map.mp member
  obtain ⟨inner, leads, empty⟩ := isEmpty_eq_ok_iff.mp (all answer among)
  rw [ModuleTree.isFilled, all answer among, ← empty, Bool.not_eq_true', List.isEmpty_eq_false_iff]
  constructor
  · exact fun filled => ⟨inner, filled, leads⟩
  · rintro ⟨inner', filled, leads'⟩
    cases leads.unique leads'
    exact filled

/-- A listed entry whose probe fails is shut. -/
theorem isShut_of_error {names : List String} {e : IoError}
    (listing : machine.list parent = .ok names) (leads : machine.LeadsTo parent (.dir entries))
    (member : name ∈ names) (failed : machine.isEmpty (parent.entry name) = .error e) :
    machine.IsShut parent entries name :=
  ⟨(mem_of_list listing leads).mp member, exists_isEmpty_eq_error_iff.mp ⟨e, failed⟩⟩

/-! ## Scans -/

section Scans

variable {tree : ModuleTree} {root : Path}

/-- A module tree that is no directory fails the scan at once. -/
theorem scan_of_no_dir (no_dir : ∀ entries, ¬ machine.LeadsTo (tree.path root) (.dir entries)) :
    ∃ cause, (tree.names machine.directories root).outcome
        = .error (.io .enumerate (tree.path root) cause)
      ∧ (tree.names machine.directories root).calls = [.list (tree.path root)] := by
  obtain ⟨cause, failed⟩ := exists_list_eq_error no_dir
  have failed : machine.directories.list (tree.path root) = .error cause := failed
  refine ⟨cause, ?_⟩
  rw [ModuleTree.names_of_list_error failed]
  exact ⟨rfl, rfl⟩

/-- A name that is no text fails the scan before anything is probed. -/
theorem scan_of_strange (leads : machine.LeadsTo (tree.path root) (.dir entries))
    (strange : HasStrangeName entries) :
    ∃ cause, cause.kind = .invalidData
      ∧ (tree.names machine.directories root).outcome
        = .error (.io .enumerate (tree.path root) cause)
      ∧ (tree.names machine.directories root).calls = [.list (tree.path root)] := by
  cases listing : machine.directories.list (tree.path root) with
  | ok names => exact absurd strange ((exists_list_eq_ok_iff leads).mp ⟨names, listing⟩)
  | error cause =>
    refine ⟨cause, kind_of_list_error leads listing, ?_⟩
    rw [ModuleTree.names_of_list_error listing]
    exact ⟨rfl, rfl⟩

/-- The first entry that is no directory fails the scan. -/
theorem scan_of_shut (sound : machine.root.IsSound)
    (leads : machine.LeadsTo (tree.path root) (.dir entries)) (plain : ¬ HasStrangeName entries)
    (some_shut : ∃ name, machine.IsShut (tree.path root) entries name) :
    ∃ name cause, machine.IsShut (tree.path root) entries name
      ∧ (∀ other, machine.IsShut (tree.path root) entries other →
        Utf8.encode name ≤ Utf8.encode other)
      ∧ (tree.names machine.directories root).outcome
        = .error (.io .checkEmpty ((tree.path root).entry name) cause) := by
  obtain ⟨listed, listing⟩ := (exists_list_eq_ok_iff leads).mpr plain
  have listing : machine.directories.list (tree.path root) = .ok listed := listing
  rcases ModuleTree.exists_answers machine.directories (tree.path root) listed with
    ⟨answers, rfl, all⟩ | ⟨answers, name, rest, cause, rfl, all, failed⟩
  · obtain ⟨name, shut⟩ := some_shut
    exact absurd shut (not_isShut_of_answers all ((mem_of_list listing leads).mpr shut.listed))
  · have shut := isShut_of_error listing leads (by simp) failed
    refine ⟨name, cause, shut, fun other shut => ?_, ?_⟩
    · -- What stands before the name was answered; what stands behind it has a greater name.
      rcases List.mem_append.mp ((mem_of_list listing leads).mpr shut.listed) with before | later
      · exact absurd shut (not_isShut_of_answers all before)
      · rcases List.mem_cons.mp later with rfl | after
        · exact List.le_refl _
        · have ascending := (List.pairwise_append.mp (pairwise_of_list sound listing)).2.1
          exact List.le_of_lt (List.rel_of_pairwise_cons ascending after)
    · rw [ModuleTree.names_of_failure listing all failed]

/-- A scan where every entry is a directory keeps those that are not empty. -/
theorem scan_of_open (sound : machine.root.IsSound)
    (leads : machine.LeadsTo (tree.path root) (.dir entries)) (plain : ¬ HasStrangeName entries)
    (none_shut : ∀ name, ¬ machine.IsShut (tree.path root) entries name) :
    ∃ names, (tree.names machine.directories root).outcome = .ok names
      ∧ names.Pairwise (fun name other => Utf8.encode name < Utf8.encode other)
      ∧ ∀ name, name ∈ names ↔ machine.IsFilled (tree.path root) entries name := by
  obtain ⟨listed, listing⟩ := (exists_list_eq_ok_iff leads).mpr plain
  have listing : machine.directories.list (tree.path root) = .ok listed := listing
  rcases ModuleTree.exists_answers machine.directories (tree.path root) listed with
    ⟨answers, rfl, all⟩ | ⟨answers, name, rest, cause, rfl, all, failed⟩
  · refine ⟨ModuleTree.kept answers, by rw [ModuleTree.names_of_answers listing all], ?_, ?_⟩
    · rw [ModuleTree.kept_eq_filter all]
      exact (pairwise_of_list sound listing).filter _
    · intro name
      rw [mem_kept_iff all, mem_of_list listing leads]
      exact ⟨fun h => ⟨h.1, h.2⟩, fun h => ⟨h.1, h.2⟩⟩
  · exact absurd (isShut_of_error listing leads (by simp) failed) (none_shut name)

end Scans

/-- **What a scan of a machine finds is told by its tree.**  If the module tree is no directory, or
some entry of it has a name that is no text, the scan fails with the listing and probes nothing.
Otherwise it fails with the first entry, in the order of bytes, that is no directory, if there is
one; and if not, it keeps the names of the directories that are not empty, ascending in that order.
An entry is what its link leads to, unless its path is too long or asks for too many links, so that
a link to a directory counts like that directory.  The order in which entries were made does not
matter. -/
theorem scan_determined {machine : Machine α} (sound : machine.root.IsSound) (tree : ModuleTree)
    (root : Path) :
    let parent := tree.path root
    let scan := tree.names machine.directories root
    ((∀ entries, ¬ machine.LeadsTo parent (.dir entries)) →
      ∃ cause, scan.outcome = .error (.io .enumerate parent cause) ∧ scan.calls = [.list parent])
    ∧ (∀ entries, machine.LeadsTo parent (.dir entries) →
      (HasStrangeName entries → ∃ cause, cause.kind = .invalidData
        ∧ scan.outcome = .error (.io .enumerate parent cause) ∧ scan.calls = [.list parent])
      ∧ (¬ HasStrangeName entries →
        ((∃ name, machine.IsShut parent entries name) →
          ∃ name cause, machine.IsShut parent entries name
            ∧ (∀ other, machine.IsShut parent entries other → Utf8.encode name ≤ Utf8.encode other)
            ∧ scan.outcome = .error (.io .checkEmpty (parent.entry name) cause))
        ∧ ((∀ name, ¬ machine.IsShut parent entries name) →
          ∃ names, scan.outcome = .ok names
            ∧ names.Pairwise (fun name other => Utf8.encode name < Utf8.encode other)
            ∧ ∀ name, name ∈ names ↔ machine.IsFilled parent entries name)))
    ∧ (∀ used here entries, machine.Reaches parent used here → used ≤ Walk.maxLinks →
      machine.root.at? here = some (.dir entries) →
      ∀ name, Utf8.encode name ∈ entries.map Prod.fst → ∀ inner,
        (machine.LeadsTo (parent.entry name) (.dir inner)
          ↔ Walk.IsWalkable (Utf8.encode (parent.entry name).text)
            ∧ (Utf8.encode name).length ≤ Walk.maxName
            ∧ Walk.StandsFor machine.root (Walk.maxLinks - used) here entries (Utf8.encode name)
              (.dir inner)))
    ∧ ∀ other : Machine α, other.root.IsSound → machine.root.SameTree other.root →
      machine.here = other.here → other.directories = machine.directories := by
  refine ⟨scan_of_no_dir,
    fun entries leads => ⟨scan_of_strange leads, fun plain => ⟨?_, ?_⟩⟩, ?_, ?_⟩
  · exact scan_of_shut sound leads plain
  · exact scan_of_open sound leads plain
  · intro used here entries reaches within inside name listed inner
    have proper := (sound.of_at? inside).proper listed
    exact leadsTo_entry_iff reaches within inside proper (.dir inner)
  · intro other sound' same here
    exact (directories_congr sound sound' same here).symm

/-- A machine with the given entries in the module tree of its root. -/
def withModules (entries : List (EntryName × Node α)) : Machine α :=
  ⟨.dir [(Utf8.encode "lib", .dir [(Utf8.encode "modules", .dir entries)])], []⟩

/-- Two kernels, one of them by a link to the other, and what a removed one left behind. -/
def linkedKernels : List (EntryName × Node Unit) :=
  [(Utf8.encode "6.1.0", .dir [(Utf8.encode "kernel", .dir [])]),
    (Utf8.encode "4.19.0", .dir []), (Utf8.encode "5.10.0", .link (Utf8.encode "6.1.0"))]

/-- Both kernels are found, in whatever order their entries were made. -/
theorem scan_determined_linked :
    (withModules linkedKernels).root.IsSound
    ∧ (ModuleTree.names {} (withModules linkedKernels).directories ⟨"/"⟩).outcome
      = .ok ["5.10.0", "6.1.0"]
    ∧ (withModules linkedKernels.reverse).root.IsSound
    ∧ (withModules linkedKernels).root.SameTree (withModules linkedKernels.reverse).root
    ∧ (withModules linkedKernels.reverse).directories
      = (withModules linkedKernels).directories := by
  have proper : ∀ name ∈ ["lib", "modules", "kernel", "4.19.0", "5.10.0", "6.1.0"],
      IsFileName (Utf8.encode name) := by decide
  have kernels : (Node.dir linkedKernels).IsSound := by
    refine .dir (by decide) (by decide) ?_
    simp only [linkedKernels, List.forall_mem_cons]
    exact ⟨Node.isSound_singleton (proper _ (by decide)) Node.isSound_empty, Node.isSound_empty,
      .leaf nofun, by simp⟩
  have sound : ∀ entries : List (EntryName × Node Unit), (Node.dir entries).IsSound →
      (withModules entries).root.IsSound :=
    fun _ sound => Node.isSound_singleton (proper _ (by decide))
      (Node.isSound_singleton (proper _ (by decide)) sound)
  have order : linkedKernels.Perm linkedKernels.reverse := (List.reverse_perm _).symm
  have same : (withModules linkedKernels).root.SameTree (withModules linkedKernels.reverse).root :=
    Node.sameTree_of_forall₂ (.cons ⟨rfl, Node.sameTree_of_forall₂ (.cons
      ⟨rfl, Node.sameTree_of_perm kernels.distinct order⟩ .nil)⟩ .nil)
  obtain ⟨-, -, -, others⟩ := scan_determined (sound _ kernels) {} ⟨"/"⟩
  exact ⟨sound _ kernels, by cbv, sound _ (kernels.perm order), same,
    others _ (sound _ (kernels.perm order)) same rfl⟩

end Machine

end KernelCensus
