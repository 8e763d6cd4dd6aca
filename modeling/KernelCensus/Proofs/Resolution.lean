/-
# Resolving versions

Kernels and versions are read off one scan, each in its own way, and the oldest of either is chosen
from what was read.  Both ways agree: versions are those of the kernels, in order, the oldest
version is that of the oldest kernel, and where one way fails the other fails with the same error
(`resolutions_agree`).
-/
import KernelCensus.Proofs.Oldest
import KernelCensus.Proofs.Outcome
import KernelCensus.Proofs.Query

namespace KernelCensus

/-! ## Reading names -/

/-- A kernel is read off a name where its version is. -/
theorem Kernel.ofName_eq_ok_iff {name : String} {kernel : Kernel} :
    Kernel.ofName name = .ok kernel
      ↔ name = kernel.name ∧ Version.ofName name = .ok kernel.version := by
  obtain ⟨named, version⟩ := kernel
  rw [Kernel.ofName]
  cases Version.ofName name with
  | error e => exact ⟨fun h => (by cases h), fun h => (by cases h.2)⟩
  | ok v => simp [Except.map]

/-- The version of the kernel of a name is the version of the name. -/
theorem Kernel.map_version_ofName (name : String) :
    (Kernel.ofName name).map Kernel.version = Version.ofName name := by
  rw [Kernel.ofName]
  cases Version.ofName name <;> rfl

/-- Kernels read off names have these names. -/
theorem Kernel.map_name_of_mapM {names : List String} {kernels : List Kernel}
    (h : names.mapM Kernel.ofName = .ok kernels) : names = kernels.map Kernel.name := by
  have each := Outcome.mapM_eq_ok_iff.mp h
  rw [← List.forall₂_eq_eq_eq, List.forall₂_map_right_iff]
  exact each.imp fun _ _ read => (Kernel.ofName_eq_ok_iff.mp read).1

/-- A name is read as a version exactly where it is a release of that version. -/
theorem Version.ofName_eq_ok_iff {name : String} {version : Version} :
    Version.ofName name = .ok version ↔ Version.ofRelease? name = some version := by
  rw [Version.ofName]
  cases Version.ofRelease? name <;> simp

/-- A name without a version is the one that the error names. -/
theorem Version.ofName_eq_error_iff {name : String} {e : QueryError} :
    Version.ofName name = .error e ↔ Version.ofRelease? name = none ∧ e = .badRelease name := by
  rw [Version.ofName]
  cases Version.ofRelease? name with
  | none => simp [eq_comm]
  | some version => simp

/-- The names that a listing gives; one that fails gives none. -/
def Directories.listed (dirs : Directories) (directory : Path) : List String :=
  match dirs.list directory with
  | .ok names => names
  | .error _ => []

namespace ModuleTree

variable (tree : ModuleTree) (dirs : Directories) (root : Path)

/-! ## Outcomes -/

/-- Kernels are read off the names that a scan keeps. -/
theorem outcome_kernels : (tree.kernels dirs root).outcome
    = (tree.names dirs root).outcome >>= fun names => names.mapM Kernel.ofName :=
  Traced.outcome_bind _ _

/-- Versions are read off the names that a scan keeps. -/
theorem outcome_versions : (tree.versions dirs root).outcome
    = (tree.names dirs root).outcome >>= fun names => names.mapM Version.ofName :=
  Traced.outcome_bind _ _

/-- The oldest kernel is chosen among the kernels. -/
theorem outcome_oldest : (tree.oldest dirs root).outcome = (tree.kernels dirs root).outcome
    >>= fun kernels => tree.chosen root (oldestBy Kernel.version kernels) := by
  rw [oldest, Traced.outcome_bind]
  congr 1
  funext kernels
  rw [Traced.outcome_bind]
  show tree.chosen root (oldestBy Kernel.version kernels) >>= Except.ok = _
  cases tree.chosen root (oldestBy Kernel.version kernels) <;> rfl

/-- The oldest version is chosen among the versions. -/
theorem outcome_oldestVersion : (tree.oldestVersion dirs root).outcome
    = (tree.versions dirs root).outcome
      >>= fun versions => tree.chosen root (oldestBy id versions) :=
  Traced.outcome_bind _ _

/-- The check looks whether the scan keeps a name. -/
theorem outcome_checkPresent : (tree.checkPresent dirs root).outcome
    = (tree.names dirs root).outcome
      >>= fun names => if names = [] then .error .noKernelInstalled else .ok () := by
  rw [checkPresent, Traced.outcome_bind]
  congr 1
  funext names
  cases names <;> rfl

/-- The oldest kernel is the one chosen among the kernels. -/
theorem outcome_oldest_eq_ok_iff {kernel : Kernel} : (tree.oldest dirs root).outcome = .ok kernel
    ↔ ∃ kernels, (tree.kernels dirs root).outcome = .ok kernels
      ∧ oldestBy Kernel.version kernels = some kernel := by
  rw [outcome_oldest, Outcome.bind_eq_ok_iff]
  have chosen_iff : ∀ kernels, tree.chosen root (oldestBy Kernel.version kernels) = .ok kernel
      ↔ oldestBy Kernel.version kernels = some kernel := by
    intro kernels
    cases oldestBy Kernel.version kernels <;> simp [chosen]
  simp only [chosen_iff]

/-- There is an oldest kernel where there are kernels. -/
theorem exists_outcome_oldest_iff : (∃ kernel, (tree.oldest dirs root).outcome = .ok kernel)
    ↔ ∃ kernels, (tree.kernels dirs root).outcome = .ok kernels ∧ kernels ≠ [] := by
  constructor
  · rintro ⟨kernel, succeeded⟩
    obtain ⟨kernels, found, choice⟩ := (tree.outcome_oldest_eq_ok_iff dirs root).mp succeeded
    exact ⟨kernels, found, List.ne_nil_of_mem (isFirstOldest_of_oldestBy choice).mem⟩
  · rintro ⟨kernels, found, some_kernel⟩
    obtain ⟨kernel, choice⟩ := Option.ne_none_iff_exists'.mp
      fun none => some_kernel (oldestBy_eq_none_iff.mp none)
    exact ⟨kernel, (tree.outcome_oldest_eq_ok_iff dirs root).mpr ⟨kernels, found, choice⟩⟩

/-- A kernel is present where the scan keeps a name. -/
theorem outcome_checkPresent_eq_ok_iff : (tree.checkPresent dirs root).outcome = .ok ()
    ↔ ∃ names, (tree.names dirs root).outcome = .ok names ∧ names ≠ [] := by
  rw [outcome_checkPresent, Outcome.bind_eq_ok_iff]
  have present_iff : ∀ names : List String,
      (if names = [] then .error .noKernelInstalled else .ok () : Except QueryError Unit) = .ok ()
        ↔ names ≠ [] := by
    intro names
    split <;> simp_all
  simp only [present_iff]

/-! ## Versions and kernels -/

/-- The versions are those of the kernels. -/
theorem outcome_versions_eq_map : (tree.versions dirs root).outcome
    = (tree.kernels dirs root).outcome.map (List.map Kernel.version) := by
  rw [outcome_versions, outcome_kernels]
  cases (tree.names dirs root).outcome with
  | error e => rfl
  | ok names =>
    show names.mapM Version.ofName = (names.mapM Kernel.ofName).map (List.map Kernel.version)
    rw [Outcome.map_mapM]
    simp only [Kernel.map_version_ofName]

/-- What is chosen among versions is the version of what is chosen among kernels. -/
theorem chosen_oldestBy_map (kernels : List Kernel) :
    tree.chosen root (oldestBy id (kernels.map Kernel.version))
      = (tree.chosen root (oldestBy Kernel.version kernels)).map Kernel.version := by
  rw [oldestBy_map]
  show tree.chosen root ((oldestBy Kernel.version kernels).map Kernel.version) = _
  cases oldestBy Kernel.version kernels <;> rfl

/-- The oldest version is that of the oldest kernel. -/
theorem outcome_oldestVersion_eq_map : (tree.oldestVersion dirs root).outcome
    = (tree.oldest dirs root).outcome.map Kernel.version := by
  rw [outcome_oldestVersion, outcome_versions_eq_map, outcome_oldest]
  cases (tree.kernels dirs root).outcome with
  | error e => rfl
  | ok kernels => exact chosen_oldestBy_map tree root kernels

/-- The kernels carry the names that the scan keeps, each with its version. -/
theorem names_of_outcome_kernels {kernels : List Kernel}
    (h : (tree.kernels dirs root).outcome = .ok kernels) :
    (tree.names dirs root).outcome = .ok (kernels.map Kernel.name)
      ∧ ∀ kernel ∈ kernels, Version.ofName kernel.name = .ok kernel.version := by
  rw [outcome_kernels] at h
  obtain ⟨names, scanned, read⟩ := Outcome.bind_eq_ok_iff.mp h
  refine ⟨by rw [scanned, Kernel.map_name_of_mapM read], ?_⟩
  intro kernel member
  obtain ⟨name, -, named⟩ := Outcome.exists_of_mem_mapM read member
  obtain ⟨rfl, parsed⟩ := Kernel.ofName_eq_ok_iff.mp named
  exact parsed

/-! ## One scan -/

/-- A scan lists once and then probes listed entries in order, each at most once. -/
theorem exists_calls_names : ∃ probed, probed <+: dirs.listed (tree.path root)
    ∧ (tree.names dirs root).calls
      = .list (tree.path root) :: probed.map (probe (tree.path root)) := by
  cases listing : dirs.list (tree.path root) with
  | error e => exact ⟨[], List.nil_prefix, by rw [names_of_list_error listing]; rfl⟩
  | ok listed =>
    rw [Directories.listed, listing]
    rcases exists_answers dirs (tree.path root) listed with
      ⟨answers, rfl, all⟩ | ⟨answers, name, rest, e, rfl, all, failed⟩
    · exact ⟨_, List.prefix_rfl, by rw [names_of_answers listing all]⟩
    · -- The probe that fails is the last one.
      refine ⟨answers.map Prod.fst ++ [name], ⟨rest, by simp⟩, ?_⟩
      rw [names_of_failure listing all failed]

/-- **All ways to resolve versions agree.**  The versions are those of the kernels, which carry the
names that the scan keeps; the oldest version is that of the oldest kernel; where one fails, the
other fails with the same error.  No query looks twice: all make the calls of one scan. -/
theorem resolutions_agree (outside : Outside) :
    let dirs := outside.directories
    (tree.versions dirs root).outcome
        = (tree.kernels dirs root).outcome.map (List.map Kernel.version)
    ∧ (∀ kernels, (tree.kernels dirs root).outcome = .ok kernels →
      (tree.names dirs root).outcome = .ok (kernels.map Kernel.name)
      ∧ ∀ kernel ∈ kernels, Version.ofName kernel.name = .ok kernel.version)
    ∧ (tree.oldestVersion dirs root).outcome
        = (tree.oldest dirs root).outcome.map Kernel.version
    ∧ ∃ probed, probed <+: dirs.listed (tree.path root)
      ∧ ∀ query ∈ Query.ofImage root, (query.answer tree outside).calls
        = .list (tree.path root) :: probed.map (probe (tree.path root)) := by
  intro dirs
  refine ⟨tree.outcome_versions_eq_map dirs root, ?_,
    tree.outcome_oldestVersion_eq_map dirs root, ?_⟩
  · intro kernels h
    exact tree.names_of_outcome_kernels dirs root h
  · obtain ⟨probed, listed_first, made⟩ := tree.exists_calls_names dirs root
    refine ⟨probed, listed_first, ?_⟩
    intro query asked
    rw [Query.calls_answer tree outside root query asked, made]

end ModuleTree

end KernelCensus
