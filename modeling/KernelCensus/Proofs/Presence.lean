/-
# Presence and resolution

The queries about one image share a scan, and so their outcomes come in four combinations only
(`findings_at`): the scan fails and all fail with it, there is no kernel, a kernel is misnamed, or
the oldest kernel is found.  From this follows that the check for presence never contradicts what
resolving versions finds (`presence_agrees`).
-/
import KernelCensus.Proofs.Resolution

namespace KernelCensus

/-! ## Kinds of errors -/

/-- The kinds of query errors. -/
inductive ErrorKind
  | badRelease
  | io
  | emptyInventory
  | noKernelInstalled
  | hostQuery
  deriving DecidableEq, Repr

/-- The kind of an error. -/
def QueryError.kind : QueryError → ErrorKind
  | .badRelease _ => .badRelease
  | .io _ _ _ => .io
  | .emptyInventory _ => .emptyInventory
  | .noKernelInstalled => .noKernelInstalled
  | .hostQuery _ => .hostQuery

/-! ## Findings -/

/-- The outcomes of the queries about one image. -/
structure Findings where
  names : Except QueryError (List String)
  kernels : Except QueryError (List Kernel)
  versions : Except QueryError (List Version)
  oldest : Except QueryError Kernel
  oldestVersion : Except QueryError Version
  presence : Except QueryError Unit

/-- The findings in a module tree. -/
def ModuleTree.findings (tree : ModuleTree) (dirs : Directories) (root : Path) : Findings where
  names := (tree.names dirs root).outcome
  kernels := (tree.kernels dirs root).outcome
  versions := (tree.versions dirs root).outcome
  oldest := (tree.oldest dirs root).outcome
  oldestVersion := (tree.oldestVersion dirs root).outcome
  presence := (tree.checkPresent dirs root).outcome

namespace Findings

/-- All queries fail with one error. -/
def failing (e : QueryError) : Findings :=
  ⟨.error e, .error e, .error e, .error e, .error e, .error e⟩

/-- There is no kernel in the given directory. -/
def vacant (modules : Path) : Findings where
  names := .ok []
  kernels := .ok []
  versions := .ok []
  oldest := .error (.emptyInventory modules)
  oldestVersion := .error (.emptyInventory modules)
  presence := .error .noKernelInstalled

/-- There are kernels of the given names, and the given one of these is no release. -/
def misnamed (names : List String) (raw : String) : Findings where
  names := .ok names
  kernels := .error (.badRelease raw)
  versions := .error (.badRelease raw)
  oldest := .error (.badRelease raw)
  oldestVersion := .error (.badRelease raw)
  presence := .ok ()

/-- There are the given kernels, and the given one of these is the oldest. -/
def resolved (kernels : List Kernel) (oldest : Kernel) : Findings where
  names := .ok (kernels.map Kernel.name)
  kernels := .ok kernels
  versions := .ok (kernels.map Kernel.version)
  oldest := .ok oldest
  oldestVersion := .ok oldest.version
  presence := .ok ()

/-- The findings that there may be about the given directory. -/
inductive At (modules : Path) : Findings → Prop
  | unread (action : ScanAction) (path : Path) (cause : IoError) :
    At modules (failing (.io action path cause))
  | vacant : At modules (vacant modules)
  | misnamed {names : List String} {raw : String} (member : raw ∈ names)
    (unparsed : Version.ofRelease? raw = none) : At modules (misnamed names raw)
  | resolved {kernels : List Kernel} {oldest : Kernel}
    (chosen : oldestBy Kernel.version kernels = some oldest) : At modules (resolved kernels oldest)

end Findings

namespace ModuleTree

variable (tree : ModuleTree) (dirs : Directories) (root : Path)

/-- A scan fails by input or output only. -/
theorem exists_io_of_names_error {e : QueryError} (h : (tree.names dirs root).outcome = .error e) :
    ∃ action path cause, e = .io action path cause := by
  rw [outcome_names] at h
  cases listing : dirs.list (tree.path root) with
  | error cause =>
    rw [listing] at h
    cases h
    exact ⟨_, _, _, rfl⟩
  | ok listed =>
    rw [listing] at h
    obtain ⟨-, name, -, -, -, failed⟩ :=
      Outcome.mapM_eq_error_iff.mp (Outcome.map_eq_error_iff.mp h)
    obtain ⟨cause, -, rfl⟩ := exists_io_of_answerOf_error failed
    exact ⟨_, _, _, rfl⟩

/-- A scan that fails fails every query. -/
theorem findings_of_names_error {e : QueryError} (h : (tree.names dirs root).outcome = .error e) :
    tree.findings dirs root = .failing e := by
  rw [findings, outcome_oldestVersion, outcome_oldest, outcome_versions, outcome_kernels,
    outcome_checkPresent, h]
  rfl

/-- Behind a scan, all is read off the names that it keeps. -/
theorem findings_of_names_ok {names : List String}
    (scan : (tree.names dirs root).outcome = .ok names) :
    tree.findings dirs root =
      { names := .ok names
        kernels := names.mapM Kernel.ofName
        versions := (names.mapM Kernel.ofName).map (List.map Kernel.version)
        oldest := names.mapM Kernel.ofName
          >>= fun kernels => tree.chosen root (oldestBy Kernel.version kernels)
        oldestVersion := (names.mapM Kernel.ofName
          >>= fun kernels => tree.chosen root (oldestBy Kernel.version kernels)).map Kernel.version
        presence := if names = [] then .error .noKernelInstalled else .ok () } := by
  rw [findings, outcome_oldestVersion_eq_map, outcome_oldest, outcome_versions_eq_map,
    outcome_kernels, outcome_checkPresent, scan]
  rfl

/-- Kernel directories of which one is misnamed fail every query that reads versions. -/
theorem findings_of_misnamed {names : List String} {e : QueryError}
    (scan : (tree.names dirs root).outcome = .ok names)
    (read : names.mapM Kernel.ofName = .error e) :
    ∃ raw ∈ names, Version.ofRelease? raw = none
      ∧ tree.findings dirs root = .misnamed names raw := by
  obtain ⟨before, raw, after, shape, -, failed⟩ := Outcome.mapM_eq_error_iff.mp read
  obtain ⟨unparsed, rfl⟩ := Version.ofName_eq_error_iff.mp (Outcome.map_eq_error_iff.mp failed)
  have member : raw ∈ names := by
    rw [shape]
    exact List.mem_append_right _ List.mem_cons_self
  refine ⟨raw, member, unparsed, ?_⟩
  rw [tree.findings_of_names_ok dirs root scan, read, if_neg (List.ne_nil_of_mem member)]
  rfl

/-- Kernels that are all read offer an oldest one, unless there are none. -/
theorem findings_of_kernels {names : List String} {kernels : List Kernel}
    (scan : (tree.names dirs root).outcome = .ok names)
    (read : names.mapM Kernel.ofName = .ok kernels) :
    names = [] ∧ tree.findings dirs root = .vacant (tree.path root)
      ∨ ∃ oldest, oldestBy Kernel.version kernels = some oldest
        ∧ tree.findings dirs root = .resolved kernels oldest := by
  obtain rfl := Kernel.map_name_of_mapM read
  rw [tree.findings_of_names_ok dirs root scan, read]
  -- Nothing is chosen only where there is no kernel, and then the scan has kept no name either.
  cases choice : oldestBy Kernel.version kernels with
  | none =>
    obtain rfl := oldestBy_eq_none_iff.mp choice
    exact Or.inl ⟨rfl, rfl⟩
  | some oldest =>
    have member := (isFirstOldest_of_oldestBy choice).mem
    have named : kernels.map Kernel.name ≠ [] := List.ne_nil_of_mem (List.mem_map_of_mem member)
    refine Or.inr ⟨oldest, rfl, ?_⟩
    rw [if_neg named, Outcome.ok_bind, choice]
    rfl

/-- **What may be found**: an unreadable directory, no kernel, a misnamed one, or an oldest one. -/
theorem findings_at : (tree.findings dirs root).At (tree.path root) := by
  cases scan : (tree.names dirs root).outcome with
  | error e =>
    obtain ⟨action, path, cause, rfl⟩ := tree.exists_io_of_names_error dirs root scan
    rw [tree.findings_of_names_error dirs root scan]
    exact .unread action path cause
  | ok names =>
    cases read : names.mapM Kernel.ofName with
    | error e =>
      obtain ⟨raw, member, unparsed, found⟩ := tree.findings_of_misnamed dirs root scan read
      rw [found]
      exact .misnamed member unparsed
    | ok kernels =>
      rcases tree.findings_of_kernels dirs root scan read with ⟨-, found⟩ | ⟨oldest, chosen, found⟩
      · rw [found]
        exact .vacant
      · rw [found]
        exact .resolved chosen

end ModuleTree

/-! ## What one query tells of another -/

namespace Findings.At

variable {modules : Path} {found : Findings}

/-- No kernel is installed exactly where the scan keeps no name. -/
theorem presence_eq_noKernelInstalled_iff (h : found.At modules) :
    found.presence = .error .noKernelInstalled ↔ found.names = .ok [] := by
  cases h with
  | unread action path cause => simp [failing]
  | vacant => simp [Findings.vacant]
  | misnamed member unparsed => simp [Findings.misnamed, List.ne_nil_of_mem member]
  | resolved chosen =>
    have member := (isFirstOldest_of_oldestBy chosen).mem
    simp [Findings.resolved, List.ne_nil_of_mem member]

/-- The inventory is empty exactly where the scan keeps no name. -/
theorem oldest_eq_emptyInventory_iff (h : found.At modules) (searched : Path) :
    found.oldest = .error (.emptyInventory searched)
      ↔ found.names = .ok [] ∧ searched = modules := by
  cases h with
  | unread action path cause => simp [failing]
  | vacant => simp [Findings.vacant, eq_comm]
  | misnamed member unparsed => simp [Findings.misnamed, List.ne_nil_of_mem member]
  | resolved chosen =>
    have member := (isFirstOldest_of_oldestBy chosen).mem
    simp [Findings.resolved, List.ne_nil_of_mem member]

/-- The oldest version is that of the oldest kernel. -/
theorem oldestVersion_eq (h : found.At modules) :
    found.oldestVersion = found.oldest.map Kernel.version := by
  cases h <;> rfl

/-- The check fails by input or output exactly where the scan does. -/
theorem presence_eq_io_iff (h : found.At modules) (action : ScanAction) (path : Path)
    (cause : IoError) : found.presence = .error (.io action path cause)
      ↔ found.names = .error (.io action path cause) := by
  cases h with
  | unread action' path' cause' => simp [failing]
  | vacant => simp [Findings.vacant]
  | misnamed member unparsed => simp [Findings.misnamed]
  | resolved chosen => simp [Findings.resolved]

/-- A scan that fails fails every query. -/
theorem eq_failing (h : found.At modules) {e : QueryError} (failed : found.names = .error e) :
    found = .failing e := by
  cases h with
  | unread action path cause =>
    cases failed
    rfl
  | vacant => cases failed
  | misnamed member unparsed => cases failed
  | resolved chosen => cases failed

/-- Where a kernel is the oldest, one is present. -/
theorem presence_of_oldest (h : found.At modules) {kernel : Kernel}
    (oldest : found.oldest = .ok kernel) : found.presence = .ok () := by
  cases h with
  | unread action path cause => cases oldest
  | vacant => cases oldest
  | misnamed member unparsed => cases oldest
  | resolved chosen => rfl

/-- Where a kernel is present and yet versions cannot be resolved, a kernel is misnamed. -/
theorem badRelease_of_presence (h : found.At modules) (present : found.presence = .ok ())
    {e : QueryError} (failed : found.kernels = .error e ∨ found.versions = .error e
      ∨ found.oldest = .error e ∨ found.oldestVersion = .error e) :
    ∃ names raw, found.names = .ok names ∧ raw ∈ names ∧ Version.ofRelease? raw = none
      ∧ e = .badRelease raw := by
  cases h with
  | unread action path cause => cases present
  | vacant => cases present
  | misnamed member unparsed =>
    refine ⟨_, _, rfl, member, unparsed, ?_⟩
    rcases failed with failed | failed | failed | failed <;> cases failed <;> rfl
  | resolved chosen => rcases failed with failed | failed | failed | failed <;> cases failed

/-- The kinds of errors of each query. -/
theorem kind_mem (h : found.At modules) (e : QueryError) :
    (found.names = .error e → e.kind = .io)
    ∧ (found.kernels = .error e ∨ found.versions = .error e → e.kind ∈ [.io, .badRelease])
    ∧ (found.oldest = .error e ∨ found.oldestVersion = .error e →
      e.kind ∈ [.io, .badRelease, .emptyInventory])
    ∧ (found.presence = .error e → e.kind ∈ [.io, .noKernelInstalled]) := by
  cases h with
  | unread action path cause => simp +contextual [failing, QueryError.kind, eq_comm]
  | vacant => simp +contextual [Findings.vacant, QueryError.kind, eq_comm]
  | misnamed member unparsed => simp +contextual [Findings.misnamed, QueryError.kind, eq_comm]
  | resolved chosen => simp [Findings.resolved]

end Findings.At

/-- **Presence and resolution never contradict each other.**  No kernel is installed exactly where
the scan keeps no name, and exactly where the inventory searched for the oldest one is empty.  A
scan that fails fails every query, and the check fails by input or output for no other reason.
Where an oldest kernel is found, one is present; where one is present and yet versions cannot be
resolved, a kernel that the scan keeps is misnamed.  No query fails in any other way. -/
theorem ModuleTree.presence_agrees (tree : ModuleTree) (dirs : Directories) (root : Path) :
    let found := tree.findings dirs root
    (found.presence = .error .noKernelInstalled ↔ found.names = .ok [])
    ∧ (∀ searched, found.oldest = .error (.emptyInventory searched)
      ↔ found.names = .ok [] ∧ searched = tree.path root)
    ∧ (∀ searched, found.oldestVersion = .error (.emptyInventory searched)
      ↔ found.names = .ok [] ∧ searched = tree.path root)
    ∧ (∀ action path cause, found.presence = .error (.io action path cause)
      ↔ found.names = .error (.io action path cause))
    ∧ (∀ e, found.names = .error e → found = .failing e)
    ∧ (∀ kernel, found.oldest = .ok kernel → found.presence = .ok ())
    ∧ (found.presence = .ok () → ∀ e,
      (found.kernels = .error e ∨ found.versions = .error e
        ∨ found.oldest = .error e ∨ found.oldestVersion = .error e) →
      ∃ names raw, found.names = .ok names ∧ raw ∈ names ∧ Version.ofRelease? raw = none
        ∧ e = .badRelease raw)
    ∧ (∀ e, found.names = .error e → e.kind = .io)
    ∧ (∀ e, found.kernels = .error e ∨ found.versions = .error e → e.kind ∈ [.io, .badRelease])
    ∧ (∀ e, found.oldest = .error e ∨ found.oldestVersion = .error e →
      e.kind ∈ [.io, .badRelease, .emptyInventory])
    ∧ (∀ e, found.presence = .error e → e.kind ∈ [.io, .noKernelInstalled]) := by
  intro found
  have fate : found.At (tree.path root) := tree.findings_at dirs root
  refine ⟨fate.presence_eq_noKernelInstalled_iff, fate.oldest_eq_emptyInventory_iff, ?_,
    fate.presence_eq_io_iff, fun e => fate.eq_failing, fun kernel => fate.presence_of_oldest,
    fun present e => fate.badRelease_of_presence present, fun e => (fate.kind_mem e).1,
    fun e => (fate.kind_mem e).2.1, fun e => (fate.kind_mem e).2.2.1,
    fun e => (fate.kind_mem e).2.2.2⟩
  intro searched
  rw [fate.oldestVersion_eq, Outcome.map_eq_error_iff]
  exact fate.oldest_eq_emptyInventory_iff searched

end KernelCensus
