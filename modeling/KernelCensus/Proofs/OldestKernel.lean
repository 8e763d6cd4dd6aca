/-
# Which kernel is the oldest

Of several kernels of level versions the oldest is the one that is listed first.  Told by places: it
stands at the least place of the inventory at which no kernel of it is lower
(`oldestBy_eq_some_iff`, `oldest_at_least_place`).  There is such an inventory exactly where
everything in the directory can be read and every name of what is not empty has a version
(`outcome_kernels_eq_ok_iff`).
-/
import KernelCensus.Proofs.Reordering
import Mathlib.Order.Bounds.Basic

namespace KernelCensus

/-! ## Places -/

section Places

variable {α : Type} {version : α → Version} {xs : List α} {a : α} {i : ℕ}

/-- The places of the candidates that no candidate is lower than. -/
def lowestPlaces (version : α → Version) (xs : List α) : Set ℕ :=
  {i | ∃ x, xs[i]? = some x ∧ ∀ y ∈ xs, ¬ version y < version x}

/-- None is lower than what stands at one of these places. -/
theorem not_lt_of_mem_lowestPlaces (among : i ∈ lowestPlaces version xs) (here : xs[i]? = some a)
    {x : α} (member : x ∈ xs) : ¬ version x < version a := by
  obtain ⟨b, same, lowest⟩ := among
  obtain rfl := Option.some_inj.mp (here.symm.trans same)
  exact lowest x member

/-- What stands before the least of them is higher. -/
theorem lt_of_isLeast_lowestPlaces (least : IsLeast (lowestPlaces version xs) i)
    (here : xs[i]? = some a) {j : ℕ} {x : α} (there : xs[j]? = some x) (earlier : j < i) :
    version a < version x := by
  -- The place before is none of them, so that some candidate is lower than the one there.
  have passed : j ∉ lowestPlaces version xs :=
    fun among => absurd (least.2 among) (not_le.mpr earlier)
  obtain ⟨y, member, lower⟩ : ∃ y ∈ xs, version y < version x := by
    by_contra none_lower
    exact passed ⟨x, there, fun y member lower => none_lower ⟨y, member, lower⟩⟩
  have at_most := Version.le_of_not_lt (not_lt_of_mem_lowestPlaces least.1 here member)
  exact Version.lt_of_le_of_lt at_most lower

/-- The first oldest candidate stands at the least of them. -/
theorem IsFirstOldest.exists_isLeast (h : IsFirstOldest version xs a) :
    ∃ i, xs[i]? = some a ∧ IsLeast (lowestPlaces version xs) i := by
  have lowest : ∀ y ∈ xs, ¬ version y < version a :=
    fun y member => Version.not_lt_of_le (h.le member)
  obtain ⟨before, after, shape, higher, -⟩ := h
  have here : xs[before.length]? = some a := by simp [shape]
  refine ⟨before.length, here, ⟨a, here, lowest⟩, ?_⟩
  -- What stands before it is higher than it, and so not at one of these places.
  rintro j ⟨x, there, none_lower⟩
  by_contra earlier
  rw [not_le] at earlier
  rw [shape, List.getElem?_append_left earlier] at there
  exact none_lower a (List.mem_of_getElem? here) (higher x (List.mem_of_getElem? there))

/-- **The choice by its place**: it stands first among those that no candidate is lower than. -/
theorem oldestBy_eq_some_iff : oldestBy version xs = some a
    ↔ ∃ i, xs[i]? = some a ∧ IsLeast (lowestPlaces version xs) i := by
  constructor
  · intro choice
    exact (isFirstOldest_of_oldestBy choice).exists_isLeast
  · rintro ⟨i, here, least⟩
    cases choice : oldestBy version xs with
    | none =>
      rw [oldestBy_eq_none_iff.mp choice] at here
      cases here
    | some b =>
      -- There is only one least place.
      obtain ⟨j, there, least'⟩ := (isFirstOldest_of_oldestBy choice).exists_isLeast
      rw [least.unique least', there] at here
      exact here

/-- Of level ones the first is chosen. -/
example : oldestBy id [⟨[6, 8, 1]⟩, ⟨[6, 8, 0]⟩, ⟨[6, 8]⟩] = some ⟨[6, 8, 0]⟩ := by decide

end Places

namespace ModuleTree

/-! ## Inventories -/

section Inventories

variable {dirs : Directories} {parent : Path} {listed : List String} {kernels : List Kernel}

/-- An entry is filled where the probe of it tells that it is not empty. -/
theorem isFilled_iff {name : String} :
    isFilled dirs parent name = true ↔ dirs.isEmpty (parent.entry name) = .ok false := by
  rw [isFilled]
  cases dirs.isEmpty (parent.entry name) <;> simp

/-- What there is in a directory that is listed as given: every entry tells whether it is empty, and
the kernels are those of the entries that are not, in order, each with the version of its name. -/
structure IsInventory (dirs : Directories) (parent : Path) (listed : List String)
    (kernels : List Kernel) : Prop where
  listing : dirs.list parent = .ok listed
  readable : ∀ name ∈ listed, ∃ empty, dirs.isEmpty (parent.entry name) = .ok empty
  named : kernels.map Kernel.name = listed.filter (isFilled dirs parent)
  parsed : ∀ kernel ∈ kernels, Version.ofRelease? kernel.name = some kernel.version

/-- The directory of a kernel is listed and not empty. -/
theorem IsInventory.mem_listed (h : IsInventory dirs parent listed kernels) {kernel : Kernel}
    (member : kernel ∈ kernels) :
    kernel.name ∈ listed ∧ dirs.isEmpty (parent.entry kernel.name) = .ok false := by
  have kept : kernel.name ∈ listed.filter (isFilled dirs parent) := by
    rw [← h.named]
    exact List.mem_map_of_mem member
  obtain ⟨among, filled⟩ := List.mem_filter.mp kept
  exact ⟨among, isFilled_iff.mp filled⟩

end Inventories

section Search

variable (tree : ModuleTree) (dirs : Directories) (root : Path)

/-- A scan succeeds where everything can be read, and keeps the entries that are not empty. -/
theorem outcome_names_eq_ok_iff {names : List String} :
    (tree.names dirs root).outcome = .ok names ↔ ∃ listed, dirs.list (tree.path root) = .ok listed
      ∧ (∀ name ∈ listed, ∃ empty, dirs.isEmpty ((tree.path root).entry name) = .ok empty)
      ∧ names = listed.filter (isFilled dirs (tree.path root)) := by
  cases listing : dirs.list (tree.path root) with
  | error e =>
    rw [names_of_list_error listing]
    simp
  | ok listed =>
    simp only [Except.ok.injEq, exists_eq_left']
    rcases exists_answers dirs (tree.path root) listed with
      ⟨answers, rfl, all⟩ | ⟨answers, name, rest, e, rfl, all, failed⟩
    · have readable : ∀ name ∈ answers.map Prod.fst,
          ∃ empty, dirs.isEmpty ((tree.path root).entry name) = .ok empty :=
        List.forall_mem_map.mpr fun answer member => ⟨answer.2, all answer member⟩
      rw [names_of_answers listing all, ← kept_eq_filter all, Except.ok.injEq]
      exact ⟨fun same => ⟨readable, same.symm⟩, fun h => h.2.symm⟩
    · rw [names_of_failure listing all failed]
      constructor
      · intro h
        cases h
      · rintro ⟨readable, -⟩
        obtain ⟨empty, answered⟩ := readable name (by simp)
        cases failed.symm.trans answered

/-- **Kernels are found where they are the inventory.** -/
theorem outcome_kernels_eq_ok_iff {kernels : List Kernel} :
    (tree.kernels dirs root).outcome = .ok kernels
      ↔ ∃ listed, IsInventory dirs (tree.path root) listed kernels := by
  constructor
  · intro found
    obtain ⟨scanned, versions⟩ := tree.names_of_outcome_kernels dirs root found
    obtain ⟨listed, listing, readable, named⟩ :=
      (tree.outcome_names_eq_ok_iff dirs root).mp scanned
    exact ⟨listed, listing, readable, named,
      fun kernel member => Version.ofName_eq_ok_iff.mp (versions kernel member)⟩
  · rintro ⟨listed, inventory⟩
    have scanned : (tree.names dirs root).outcome = .ok (kernels.map Kernel.name) :=
      (tree.outcome_names_eq_ok_iff dirs root).mpr
        ⟨listed, inventory.listing, inventory.readable, inventory.named⟩
    rw [outcome_kernels, scanned, Outcome.ok_bind, Outcome.mapM_eq_ok_iff,
      List.forall₂_map_left_iff, List.forall₂_same]
    intro kernel member
    exact Kernel.ofName_eq_ok_iff.mpr
      ⟨rfl, Version.ofName_eq_ok_iff.mpr (inventory.parsed kernel member)⟩

/-! ## The oldest kernel -/

/-- The oldest kernel is the one at the least place of an inventory at which no kernel is lower. -/
theorem outcome_oldest_eq_ok_iff_isLeast {kernel : Kernel} :
    (tree.oldest dirs root).outcome = .ok kernel
      ↔ ∃ listed kernels i, IsInventory dirs (tree.path root) listed kernels
        ∧ kernels[i]? = some kernel ∧ IsLeast (lowestPlaces Kernel.version kernels) i := by
  simp only [outcome_oldest_eq_ok_iff, outcome_kernels_eq_ok_iff, oldestBy_eq_some_iff]
  constructor
  · rintro ⟨kernels, ⟨listed, inventory⟩, i, here, least⟩
    exact ⟨listed, kernels, i, inventory, here, least⟩
  · rintro ⟨listed, kernels, i, inventory, here, least⟩
    exact ⟨kernels, ⟨listed, inventory⟩, i, here, least⟩

/-- The search for the oldest kernel is in vain where the inventory is empty. -/
theorem outcome_oldest_eq_emptyInventory_iff {searched : Path} :
    (tree.oldest dirs root).outcome = .error (.emptyInventory searched)
      ↔ searched = tree.path root ∧ ∃ listed, IsInventory dirs (tree.path root) listed [] := by
  have vain := (tree.findings_at dirs root).oldest_eq_emptyInventory_iff searched
  refine vain.trans ?_
  constructor
  · rintro ⟨scanned, same⟩
    obtain ⟨listed, listing, readable, named⟩ :=
      (tree.outcome_names_eq_ok_iff dirs root).mp scanned
    exact ⟨same, listed, listing, readable, named, by simp⟩
  · rintro ⟨same, listed, inventory⟩
    exact ⟨(tree.outcome_names_eq_ok_iff dirs root).mpr
      ⟨listed, inventory.listing, inventory.readable, inventory.named⟩, same⟩

/-- A directory that is not empty and whose name has no version fails the search, whatever else
there is: with such a name, or with an entry that cannot be read. -/
theorem exists_outcome_oldest_eq_error_of_misnamed {listed : List String} {name : String}
    (listing : dirs.list (tree.path root) = .ok listed) (member : name ∈ listed)
    (filled : dirs.isEmpty ((tree.path root).entry name) = .ok false)
    (unparsed : Version.ofRelease? name = none) :
    ∃ e, (tree.oldest dirs root).outcome = .error e ∧ e.kind
      = if ∃ other ∈ listed, isUnreadable dirs (tree.path root) other then .io
        else .badRelease := by
  have misnamed : ∃ raw ∈ listed.filter (isFilled dirs (tree.path root)),
      Version.ofRelease? raw = none :=
    ⟨name, List.mem_filter.mpr ⟨member, isFilled_iff.mpr filled⟩, unparsed⟩
  have fails := (tree.failsBy_findings dirs root listing).oldest
  rw [failureOf, failureAmong, if_pos (And.intro rfl misnamed), ← apply_ite some] at fails
  cases ended : (tree.oldest dirs root).outcome with
  | ok kernel =>
    rw [findings, ended] at fails
    cases fails
  | error e =>
    rw [findings, ended] at fails
    exact ⟨e, rfl, Option.some_inj.mp fails⟩

end Search

/-- **Which kernel is the oldest.**  It is the one at the least place of the inventory at which no
kernel of it is lower: all before it are higher and none behind it is lower, its directory is listed
and not empty, and its version is that of its name.  The search is in vain only where the inventory
is empty, and it fails where a directory that is not empty has a name without a version. -/
theorem oldest_at_least_place (tree : ModuleTree) (dirs : Directories) (root : Path) :
    let parent := tree.path root
    let answer := (tree.oldest dirs root).outcome
    (∀ kernel, answer = .ok kernel ↔ ∃ listed kernels i, IsInventory dirs parent listed kernels
      ∧ kernels[i]? = some kernel ∧ IsLeast (lowestPlaces Kernel.version kernels) i)
    ∧ (∀ kernel listed kernels i, IsInventory dirs parent listed kernels →
      kernels[i]? = some kernel → IsLeast (lowestPlaces Kernel.version kernels) i →
      (∀ j other, kernels[j]? = some other →
        (j < i → kernel.version < other.version) ∧ (i < j → ¬ other.version < kernel.version))
      ∧ kernel.name ∈ listed ∧ dirs.isEmpty (parent.entry kernel.name) = .ok false
      ∧ Version.ofRelease? kernel.name = some kernel.version)
    ∧ (∀ searched, answer = .error (.emptyInventory searched)
      ↔ searched = parent ∧ ∃ listed, IsInventory dirs parent listed [])
    ∧ ∀ listed name, dirs.list parent = .ok listed → name ∈ listed →
      dirs.isEmpty (parent.entry name) = .ok false → Version.ofRelease? name = none →
      ∃ e, answer = .error e ∧ e.kind
        = if ∃ other ∈ listed, isUnreadable dirs parent other then .io else .badRelease := by
  intro parent answer
  refine ⟨fun kernel => tree.outcome_oldest_eq_ok_iff_isLeast dirs root, ?_,
    fun searched => tree.outcome_oldest_eq_emptyInventory_iff dirs root,
    fun listed name => tree.exists_outcome_oldest_eq_error_of_misnamed dirs root⟩
  intro kernel listed kernels i inventory here least
  have member : kernel ∈ kernels := List.mem_of_getElem? here
  obtain ⟨among, filled⟩ := inventory.mem_listed member
  refine ⟨?_, among, filled, inventory.parsed kernel member⟩
  intro j other there
  exact ⟨lt_of_isLeast_lowestPlaces least here there,
    fun _ => not_lt_of_mem_lowestPlaces least.1 here (List.mem_of_getElem? there)⟩

end ModuleTree

end KernelCensus
