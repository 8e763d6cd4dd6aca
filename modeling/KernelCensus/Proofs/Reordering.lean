/-
# Listings in another order

A listing may give its names in any order.  The order decides nothing but which of several level
kernels is the oldest, which entry an error names, and in which order kernels are told
(`reordered_endsAlike`): what fails for one order fails for every other, with an error of the same
kind, and that kind follows from the entries alone (`failsBy_findings`).
-/
import KernelCensus.Proofs.Presence

namespace KernelCensus

open Outcome (EndsAlike)

/-- Errors of one kind. -/
def QueryError.SameKind (e e' : QueryError) : Prop :=
  e.kind = e'.kind

/-- The kind of the error of a failure. -/
def QueryError.failure? {α : Type} : Except QueryError α → Option ErrorKind
  | .ok _ => none
  | .error e => some e.kind

namespace ModuleTree

open QueryError (SameKind failure?)

variable {tree : ModuleTree} {root : Path}

/-! ## Ending alike -/

section EndsAlike

variable {list list' : Path → Except IoError (List String)}
  (order : EndsAlike List.Perm Eq (list (tree.path root)) (list' (tree.path root)))
  (isEmpty : Path → Except IoError Bool)

include order

/-- Scans of two orders keep the same names. -/
theorem names_endsAlike : EndsAlike List.Perm SameKind
    (tree.names ⟨list, isEmpty⟩ root).outcome (tree.names ⟨list', isEmpty⟩ root).outcome := by
  rw [outcome_names, outcome_names]
  have enumerated : EndsAlike List.Perm SameKind
      ((list (tree.path root)).mapError (.io .enumerate (tree.path root)))
      ((list' (tree.path root)).mapError (.io .enumerate (tree.path root))) :=
    order.mapError fun e e' same => rfl
  refine enumerated.bind fun listed listed' perm => ?_
  refine (Outcome.mapM_perm ?_ perm).map fun answers answers' perm => (perm.filter _).map _
  -- Errors of probes name different entries, and yet all are of one kind.
  intro name e name' e' failed failed'
  obtain ⟨cause, -, rfl⟩ := exists_io_of_answerOf_error failed
  obtain ⟨cause', -, rfl⟩ := exists_io_of_answerOf_error failed'
  rfl

/-- The same kernels are read in two orders. -/
theorem kernels_endsAlike : EndsAlike List.Perm SameKind
    (tree.kernels ⟨list, isEmpty⟩ root).outcome (tree.kernels ⟨list', isEmpty⟩ root).outcome := by
  rw [outcome_kernels, outcome_kernels]
  refine (names_endsAlike order isEmpty).bind fun names names' perm => Outcome.mapM_perm ?_ perm
  intro name e name' e' failed failed'
  obtain ⟨-, rfl⟩ := Version.ofName_eq_error_iff.mp (Outcome.map_eq_error_iff.mp failed)
  obtain ⟨-, rfl⟩ := Version.ofName_eq_error_iff.mp (Outcome.map_eq_error_iff.mp failed')
  rfl

/-- The same versions are read in two orders. -/
theorem versions_endsAlike : EndsAlike List.Perm SameKind
    (tree.versions ⟨list, isEmpty⟩ root).outcome (tree.versions ⟨list', isEmpty⟩ root).outcome := by
  rw [outcome_versions_eq_map, outcome_versions_eq_map]
  exact (kernels_endsAlike order isEmpty).map fun kernels kernels' perm => perm.map _

/-- The oldest kernels of two orders are level. -/
theorem oldest_endsAlike :
    EndsAlike (fun kernel kernel' : Kernel => kernel.version.isLevel kernel'.version = true)
      SameKind (tree.oldest ⟨list, isEmpty⟩ root).outcome
      (tree.oldest ⟨list', isEmpty⟩ root).outcome := by
  rw [outcome_oldest, outcome_oldest]
  -- The kernels are chosen from in different orders: there is none in both, or one in each.
  refine (kernels_endsAlike order isEmpty).bind fun kernels kernels' perm => ?_
  cases left : oldestBy Kernel.version kernels with
  | none =>
    obtain rfl := oldestBy_eq_none_iff.mp left
    rw [List.nil_perm.mp perm, left]
    exact .error rfl
  | some oldest =>
    cases right : oldestBy Kernel.version kernels' with
    | none =>
      obtain rfl := oldestBy_eq_none_iff.mp right
      obtain rfl := List.perm_nil.mp perm
      cases left
    | some oldest' => exact .ok (isLevel_of_oldestBy_perm perm left right)

/-- The oldest versions of two orders are level. -/
theorem oldestVersion_endsAlike :
    EndsAlike (fun version version' : Version => version.isLevel version' = true) SameKind
      (tree.oldestVersion ⟨list, isEmpty⟩ root).outcome
      (tree.oldestVersion ⟨list', isEmpty⟩ root).outcome := by
  rw [outcome_oldestVersion_eq_map, outcome_oldestVersion_eq_map]
  exact (oldest_endsAlike order isEmpty).map fun kernel kernel' level => level

/-- Kernels are present in both orders or in neither. -/
theorem checkPresent_endsAlike : EndsAlike Eq SameKind
    (tree.checkPresent ⟨list, isEmpty⟩ root).outcome
    (tree.checkPresent ⟨list', isEmpty⟩ root).outcome := by
  rw [outcome_checkPresent, outcome_checkPresent]
  refine (names_endsAlike order isEmpty).bind fun names names' perm => ?_
  by_cases none : names = []
  · obtain rfl := none
    rw [List.nil_perm.mp perm]
    exact .error rfl
  · have none' : names' ≠ [] := by
      rintro rfl
      exact none (List.perm_nil.mp perm)
    rw [if_neg none, if_neg none']
    exact .ok rfl

end EndsAlike

/-! ## Kinds of failures -/

/-- The kinds of errors of all queries, given what makes a query fail that reads versions or not,
and that makes something or nothing of there being no kernel. -/
structure FailsBy (kind : Bool → Option ErrorKind → Option ErrorKind) (found : Findings) :
    Prop where
  names : failure? found.names = kind false none
  kernels : failure? found.kernels = kind true none
  versions : failure? found.versions = kind true none
  oldest : failure? found.oldest = kind true (some .emptyInventory)
  oldestVersion : failure? found.oldestVersion = kind true (some .emptyInventory)
  presence : failure? found.presence = kind false (some .noKernelInstalled)

/-- What kernel directories lead to: one that is misnamed fails a query that reads versions, and
without any the query decides. -/
def failureAmong (names : List String) (readsVersions : Bool) (onNothing : Option ErrorKind) :
    Option ErrorKind :=
  if readsVersions ∧ ∃ name ∈ names, Version.ofRelease? name = none then some .badRelease
  else if names = [] then onNothing
  else none

/-- Kept names tell how queries fail. -/
theorem failsBy_of_names {dirs : Directories} {names : List String}
    (scan : (tree.names dirs root).outcome = .ok names) :
    FailsBy (failureAmong names) (tree.findings dirs root) := by
  cases read : names.mapM Kernel.ofName with
  | error e =>
    obtain ⟨raw, member, unparsed, found⟩ := tree.findings_of_misnamed dirs root scan read
    have reading : ∀ onNothing, failureAmong names true onNothing = some .badRelease :=
      fun onNothing => if_pos ⟨rfl, raw, member, unparsed⟩
    have not_reading : ∀ onNothing, failureAmong names false onNothing = none := by
      intro onNothing
      rw [failureAmong, if_neg (by simp), if_neg (List.ne_nil_of_mem member)]
    rw [found]
    exact ⟨(not_reading _).symm, (reading _).symm, (reading _).symm, (reading _).symm,
      (reading _).symm, (not_reading _).symm⟩
  | ok kernels =>
    rcases tree.findings_of_kernels dirs root scan read with
      ⟨rfl, found⟩ | ⟨oldest, chosen, found⟩
    · rw [found]
      constructor <;> rfl
    · have filled : names ≠ [] := by
        rw [Kernel.map_name_of_mapM read]
        exact List.ne_nil_of_mem (List.mem_map_of_mem (isFirstOldest_of_oldestBy chosen).mem)
      have named : ¬ ∃ name ∈ names, Version.ofRelease? name = none := by
        rintro ⟨name, member, unparsed⟩
        obtain ⟨kernel, read_name⟩ := Outcome.exists_mapM_eq_ok_iff.mp ⟨kernels, read⟩ name member
        cases (Version.ofName_eq_error_iff.mpr ⟨unparsed, rfl⟩).symm.trans
          (Kernel.ofName_eq_ok_iff.mp read_name).2
      have none : ∀ readsVersions onNothing, failureAmong names readsVersions onNothing = none := by
        intro readsVersions onNothing
        rw [failureAmong, if_neg fun h => named h.2, if_neg filled]
      rw [found]
      constructor <;> exact (none _ _).symm

/-- Whether the probe of an entry fails. -/
def isUnreadable (dirs : Directories) (parent : Path) (name : String) : Bool :=
  match dirs.isEmpty (parent.entry name) with
  | .ok _ => false
  | .error _ => true

/-- Whether an entry is a directory that is not empty. -/
def isFilled (dirs : Directories) (parent : Path) (name : String) : Bool :=
  match dirs.isEmpty (parent.entry name) with
  | .ok empty => !empty
  | .error _ => false

/-- What listed entries lead to: one that cannot be read outweighs everything, and those that are
not empty tell the rest. -/
def failureOf (dirs : Directories) (parent : Path) (listed : List String) (readsVersions : Bool)
    (onNothing : Option ErrorKind) : Option ErrorKind :=
  if ∃ name ∈ listed, isUnreadable dirs parent name then some .io
  else failureAmong (listed.filter (isFilled dirs parent)) readsVersions onNothing

/-- The names kept of answers are those whose directories are not empty. -/
theorem kept_eq_filter {dirs : Directories} {parent : Path} {answers : List (String × Bool)}
    (all : Answers dirs parent answers) :
    kept answers = (answers.map Prod.fst).filter (isFilled dirs parent) := by
  rw [List.filter_map, kept]
  refine congrArg (List.map Prod.fst) (List.filter_congr fun answer member => ?_)
  rw [Function.comp, isFilled, all answer member]

/-- No answered entry is unreadable. -/
theorem not_isUnreadable {dirs : Directories} {parent : Path} {answers : List (String × Bool)}
    (all : Answers dirs parent answers) :
    ¬ ∃ name ∈ answers.map Prod.fst, isUnreadable dirs parent name := by
  rintro ⟨name, member, unreadable⟩
  obtain ⟨answer, among, rfl⟩ := List.mem_map.mp member
  rw [isUnreadable, all answer among] at unreadable
  cases unreadable

/-- **Entries alone tell how queries fail**, whatever their order. -/
theorem failsBy_findings (tree : ModuleTree) (dirs : Directories) (root : Path)
    {listed : List String} (listing : dirs.list (tree.path root) = .ok listed) :
    FailsBy (failureOf dirs (tree.path root) listed) (tree.findings dirs root) := by
  rcases exists_answers dirs (tree.path root) listed with
    ⟨answers, rfl, all⟩ | ⟨answers, name, rest, e, rfl, all, failed⟩
  · have readable : failureOf dirs (tree.path root) (answers.map Prod.fst)
        = failureAmong (kept answers) := by
      funext readsVersions onNothing
      rw [failureOf, if_neg (not_isUnreadable all), kept_eq_filter all]
    rw [readable]
    exact failsBy_of_names (congrArg Traced.outcome (names_of_answers listing all))
  · have unreadable : ∃ other ∈ answers.map Prod.fst ++ name :: rest,
        isUnreadable dirs (tree.path root) other := by
      refine ⟨name, by simp, ?_⟩
      rw [isUnreadable, failed]
    rw [tree.findings_of_names_error dirs root
      (congrArg Traced.outcome (names_of_failure listing all failed))]
    constructor <;> rw [failureOf, if_pos unreadable] <;> rfl

/-! ## Reordering -/

/-- **Order decides nothing but ties.**  Two listings of the same names in different orders lead to
the same findings: names, kernels and versions in other orders, and oldest ones that are level.
What fails for one fails for the other with an error of the same kind, which the entries alone
tell. -/
theorem reordered_endsAlike (tree : ModuleTree) (root : Path)
    {list list' : Path → Except IoError (List String)}
    (order : EndsAlike List.Perm Eq (list (tree.path root)) (list' (tree.path root)))
    (isEmpty : Path → Except IoError Bool) :
    let found := tree.findings ⟨list, isEmpty⟩ root
    let found' := tree.findings ⟨list', isEmpty⟩ root
    EndsAlike List.Perm SameKind found.names found'.names
    ∧ EndsAlike List.Perm SameKind found.kernels found'.kernels
    ∧ EndsAlike List.Perm SameKind found.versions found'.versions
    ∧ EndsAlike (fun kernel kernel' : Kernel => kernel.version.isLevel kernel'.version = true)
      SameKind found.oldest found'.oldest
    ∧ EndsAlike (fun version version' : Version => version.isLevel version' = true)
      SameKind found.oldestVersion found'.oldestVersion
    ∧ EndsAlike Eq SameKind found.presence found'.presence
    ∧ ∀ listed, list (tree.path root) = .ok listed →
      FailsBy (failureOf ⟨list, isEmpty⟩ (tree.path root) listed) found := by
  intro found found'
  exact ⟨names_endsAlike order isEmpty, kernels_endsAlike order isEmpty,
    versions_endsAlike order isEmpty, oldest_endsAlike order isEmpty,
    oldestVersion_endsAlike order isEmpty, checkPresent_endsAlike order isEmpty,
    fun listed listing => tree.failsBy_findings ⟨list, isEmpty⟩ root listing⟩

/-- Two orders of an inventory with a tie and a stale entry: the oldest kernels differ, and are
level. -/
theorem reordered_endsAlike_tie :
    let list : Path → Except IoError (List String) := fun _ => .ok ["6.8", "5.4", "6.8.0-48"]
    let list' : Path → Except IoError (List String) := fun _ => .ok ["6.8.0-48", "6.8", "5.4"]
    let isEmpty := fun path : Path => .ok (path == ⟨"image/lib/modules/5.4"⟩)
    let found := ModuleTree.findings {} ⟨list, isEmpty⟩ ⟨"image"⟩
    let found' := ModuleTree.findings {} ⟨list', isEmpty⟩ ⟨"image"⟩
    EndsAlike List.Perm Eq (list ⟨"image/lib/modules"⟩) (list' ⟨"image/lib/modules"⟩)
    ∧ found.oldest = .ok ⟨"6.8", ⟨[6, 8]⟩⟩ ∧ found'.oldest = .ok ⟨"6.8.0-48", ⟨[6, 8, 0]⟩⟩
    ∧ EndsAlike (fun kernel kernel' : Kernel => kernel.version.isLevel kernel'.version = true)
      SameKind found.oldest found'.oldest := by
  intro list list' isEmpty found found'
  have order : EndsAlike List.Perm Eq (list (ModuleTree.path {} ⟨"image"⟩))
      (list' (ModuleTree.path {} ⟨"image"⟩)) := .ok (by decide)
  obtain ⟨-, -, -, alike, -⟩ := reordered_endsAlike {} ⟨"image"⟩ order isEmpty
  exact ⟨.ok (by decide), by decide +kernel, by decide +kernel, alike⟩

end ModuleTree

end KernelCensus
