/-
# What queries log

A scan tells of every answered probe for debugging.  What a query logs on top of that for
information states a result: the oldest kernel that was resolved, or the version of the build host,
once each and last.  Nothing of the kind is logged by a query that fails, nor by any other query,
and nothing more severe by any (`Query.announces_results`).
-/
import KernelCensus.Fixture
import KernelCensus.Proofs.Host
import KernelCensus.Proofs.Scan

namespace KernelCensus

/-! ## Details -/

/-- Events that are all for debugging. -/
def AreDetails (log : List Event) : Prop :=
  ∀ event ∈ log, event.level = .debug

/-- Where nothing is logged there are details only. -/
theorem areDetails_nil : AreDetails [] := by
  intro event member
  cases member

namespace Traced

variable {ε α β : Type}

/-- What goes on from a success logs behind it. -/
theorem log_bind_of_ok {x : Traced ε α} {a : α} (h : x.outcome = .ok a) (next : α → Traced ε β) :
    (x >>= next).log = x.log ++ (next a).log := by
  obtain ⟨outcome, log, calls⟩ := x
  cases h
  rfl

/-- Nothing is logged behind a failure. -/
theorem log_bind_of_error {x : Traced ε α} {e : ε} (h : x.outcome = .error e)
    (next : α → Traced ε β) : (x >>= next).log = x.log := by
  obtain ⟨outcome, log, calls⟩ := x
  cases h
  rfl

/-- Computations that log details only, one going on from the other, log details only. -/
theorem areDetails_bind {x : Traced ε α} {next : α → Traced ε β} (first : AreDetails x.log)
    (later : ∀ a, AreDetails (next a).log) : AreDetails (x >>= next).log := by
  cases ended : x.outcome with
  | error e =>
    rw [log_bind_of_error ended]
    exact first
  | ok a =>
    rw [log_bind_of_ok ended]
    exact List.forall_mem_append.mpr ⟨first, later a⟩

end Traced

namespace ModuleTree

variable {tree : ModuleTree} {dirs : Directories} {root : Path}

/-- Probing logs details only: one event for each answer, none for a failure. -/
theorem areDetails_probeEntries (dirs : Directories) (parent : Path) (listed : List String) :
    AreDetails (probeEntries dirs parent listed).log := by
  induction listed with
  | nil => exact areDetails_nil
  | cons name rest ih =>
    cases probed : dirs.isEmpty (parent.entry name) with
    | error e =>
      rw [probeEntries_error rest probed]
      exact areDetails_nil
    | ok empty =>
      rw [probeEntries_ok rest probed]
      exact List.forall_mem_cons.mpr ⟨(told_level_text parent (name, empty)).1, ih⟩

/-- **A scan logs details only**, however it ends. -/
theorem areDetails_names (tree : ModuleTree) (dirs : Directories) (root : Path) :
    AreDetails (tree.names dirs root).log := by
  cases listing : dirs.list (tree.path root) with
  | error e =>
    rw [names_of_list_error listing]
    exact areDetails_nil
  | ok listed =>
    rw [names_of_list_ok listing]
    exact areDetails_probeEntries dirs _ listed

/-- Reading kernels logs what the scan logs. -/
theorem log_kernels : (tree.kernels dirs root).log = (tree.names dirs root).log := by
  rw [kernels, Traced.bind_ofExcept]

/-- Reading versions logs what the scan logs. -/
theorem log_versions : (tree.versions dirs root).log = (tree.names dirs root).log := by
  rw [versions, Traced.bind_ofExcept]

/-- Looking for the oldest version logs what the scan logs, even where it finds one. -/
theorem log_oldestVersion : (tree.oldestVersion dirs root).log = (tree.names dirs root).log := by
  rw [oldestVersion, Traced.bind_ofExcept, log_versions]

/-- Checking for presence logs details only. -/
theorem areDetails_checkPresent : AreDetails (tree.checkPresent dirs root).log := by
  refine Traced.areDetails_bind (areDetails_names tree dirs root) fun found => ?_
  split
  · exact areDetails_nil
  · intro event member
    rw [List.mem_singleton.mp member]
    rfl

/-! ## Resolutions -/

/-- The kernel that is chosen after a scan, before it is announced. -/
theorem oldest_eq_bind : tree.oldest dirs root
    = (tree.kernels dirs root
      >>= fun found => Traced.ofExcept (tree.chosen root (oldestBy Kernel.version found)))
      >>= fun kernel => Traced.logged (.oldestKernel kernel.name kernel.version)
      >>= fun _ => pure kernel := by
  rw [oldest, bind_assoc]

/-- **The oldest kernel is announced behind the scan**, and nothing is where there is none. -/
theorem log_oldest : (tree.oldest dirs root).log = (tree.names dirs root).log
    ++ match (tree.oldest dirs root).outcome with
      | .ok kernel => [.oldestKernel kernel.name kernel.version]
      | .error _ => [] := by
  rw [oldest_eq_bind, Traced.bind_ofExcept, log_kernels]
  cases (tree.kernels dirs root).outcome >>= fun found =>
      tree.chosen root (oldestBy Kernel.version found) with
  | error e => exact (List.append_nil _).symm
  | ok kernel => rfl

end ModuleTree

/-- A release of the host is announced with its version. -/
theorem log_hostVersion_of_some {answered : String} {version : Version}
    (read : Version.ofRelease? (trim answered) = some version) :
    (hostVersion (.ok answered)).log = [.hostKernel (trim answered) version] := by
  simp only [hostVersion, Traced.called_ok_bind, read]
  rfl

/-- Nothing is announced of a host that answers with something else. -/
theorem log_hostVersion_of_none {answered : String}
    (unread : Version.ofRelease? (trim answered) = none) :
    (hostVersion (.ok answered)).log = [] := by
  simp only [hostVersion, Traced.called_ok_bind, unread]
  rfl

/-- **The version of the host is announced once it is told**, and nothing is before. -/
theorem log_hostVersion (release : Except QueryError String) :
    (∃ e, (hostVersion release).outcome = .error e ∧ (hostVersion release).log = [])
    ∨ ∃ answered version, release = .ok answered ∧ (hostVersion release).outcome = .ok version
      ∧ (hostVersion release).log = [.hostKernel (trim answered) version] := by
  cases release with
  | error e => exact Or.inl ⟨e, rfl, rfl⟩
  | ok answered =>
    cases read : Version.ofRelease? (trim answered) with
    | none =>
      exact Or.inl ⟨_, outcome_hostVersion_of_none read, log_hostVersion_of_none read⟩
    | some version =>
      exact Or.inr ⟨answered, version, rfl, outcome_hostVersion_of_some read,
        log_hostVersion_of_some read⟩

/-! ## Queries -/

namespace Query

variable (tree : ModuleTree) (outside : Outside)

/-- The queries of which a result is announced. -/
def IsAnnounced (query : Query) : Prop :=
  query = .hostVersion ∨ ∃ root, query = .oldest root

/-- **All other queries log details only**, however they end. -/
theorem areDetails_answer {query : Query} (other : ¬ query.IsAnnounced) :
    AreDetails (query.answer tree outside).log := by
  cases query with
  | modulesPath root => exact areDetails_nil
  | names root =>
    rw [answer, Traced.bind_pure]
    exact ModuleTree.areDetails_names tree _ root
  | kernels root =>
    rw [answer, Traced.bind_pure, ModuleTree.log_kernels]
    exact ModuleTree.areDetails_names tree _ root
  | versions root =>
    rw [answer, Traced.bind_pure, ModuleTree.log_versions]
    exact ModuleTree.areDetails_names tree _ root
  | oldest root => exact absurd (Or.inr ⟨root, rfl⟩) other
  | oldestVersion root =>
    rw [answer, Traced.bind_pure, ModuleTree.log_oldestVersion]
    exact ModuleTree.areDetails_names tree _ root
  | checkPresent root =>
    rw [answer, Traced.bind_pure]
    exact ModuleTree.areDetails_checkPresent
  | hostVersion => exact absurd (Or.inl rfl) other

variable {tree outside}

/-- A kernel that is found is announced last. -/
theorem log_oldest_of_ok {root : Path} {found : Answer}
    (h : ((oldest root).answer tree outside).outcome = .ok found) :
    ∃ kernel, found = .kernel kernel
      ∧ ((oldest root).answer tree outside).log = (tree.names outside.directories root).log
        ++ [.oldestKernel kernel.name kernel.version] := by
  rw [answer, Traced.bind_pure] at h ⊢
  obtain ⟨kernel, resolved, rfl⟩ := Outcome.map_eq_ok_iff.mp h
  refine ⟨kernel, rfl, ?_⟩
  rw [ModuleTree.log_oldest, resolved]

/-- Nothing is announced of a kernel that is not found. -/
theorem log_oldest_of_error {root : Path} {e : QueryError}
    (h : ((oldest root).answer tree outside).outcome = .error e) :
    ((oldest root).answer tree outside).log = (tree.names outside.directories root).log := by
  rw [answer, Traced.bind_pure] at h ⊢
  rw [ModuleTree.log_oldest, Outcome.map_eq_error_iff.mp h, List.append_nil]

/-- A version of the host that is told is announced. -/
theorem log_hostVersion_of_ok {found : Answer}
    (h : (hostVersion.answer tree outside).outcome = .ok found) :
    ∃ answered version, outside.release = .ok answered ∧ found = .version version
      ∧ (hostVersion.answer tree outside).log = [.hostKernel (trim answered) version] := by
  rw [answer, Traced.bind_pure] at h ⊢
  obtain ⟨version, told, rfl⟩ := Outcome.map_eq_ok_iff.mp h
  rcases log_hostVersion outside.release with
    ⟨e, failed, -⟩ | ⟨answered, version', release, told', log⟩
  · cases told.symm.trans failed
  · cases told.symm.trans told'
    exact ⟨answered, version, release, rfl, log⟩

/-- Nothing is announced of a host whose version is not told. -/
theorem log_hostVersion_of_error {e : QueryError}
    (h : (hostVersion.answer tree outside).outcome = .error e) :
    (hostVersion.answer tree outside).log = [] := by
  rw [answer, Traced.bind_pure] at h ⊢
  have untold := Outcome.map_eq_error_iff.mp h
  rcases log_hostVersion outside.release with ⟨e', -, log⟩ | ⟨answered, version, -, told, -⟩
  · exact log
  · cases untold.symm.trans told

/-- **A query that fails logs details only.** -/
theorem areDetails_of_error {query : Query} {e : QueryError}
    (h : (query.answer tree outside).outcome = .error e) :
    AreDetails (query.answer tree outside).log := by
  by_cases announced : query.IsAnnounced
  · rcases announced with rfl | ⟨root, rfl⟩
    · rw [log_hostVersion_of_error h]
      exact areDetails_nil
    · rw [log_oldest_of_error h]
      exact ModuleTree.areDetails_names tree _ root
  · exact areDetails_answer tree outside announced

/-- **Results are announced once, and last.**  Behind the details of the scan, a kernel that is
resolved as the oldest is announced with its version, and so is a version of the host.  All else is
details: what a failing query logs, and what any query but these two logs, the one for the version
of the oldest kernel included.  No query logs anything more severe than an announcement. -/
theorem announces_results (tree : ModuleTree) (outside : Outside) :
    (∀ root, AreDetails (tree.names outside.directories root).log
      ∧ ∀ found, ((oldest root).answer tree outside).outcome = .ok found →
        ∃ kernel, found = .kernel kernel ∧ ((oldest root).answer tree outside).log
          = (tree.names outside.directories root).log
            ++ [.oldestKernel kernel.name kernel.version])
    ∧ (∀ found, (hostVersion.answer tree outside).outcome = .ok found →
      ∃ answered version, outside.release = .ok answered ∧ found = .version version
        ∧ (hostVersion.answer tree outside).log = [.hostKernel (trim answered) version])
    ∧ (∀ (query : Query) (e : QueryError), (query.answer tree outside).outcome = .error e →
      AreDetails (query.answer tree outside).log)
    ∧ (∀ query : Query, ¬ query.IsAnnounced → AreDetails (query.answer tree outside).log)
    ∧ (∀ query : Query, ∀ event ∈ (query.answer tree outside).log,
      event.level = .debug ∨ event.level = .info)
    ∧ (∀ name version, (Event.oldestKernel name version).level = .info
      ∧ (Event.oldestKernel name version).text
        = "oldest installed kernel: " ++ name ++ " (version " ++ version.text ++ ")")
    ∧ ∀ release version, (Event.hostKernel release version).level = .info
      ∧ (Event.hostKernel release version).text
        = "build host kernel: " ++ release ++ " (version " ++ version.text ++ ")" := by
  refine ⟨?_, ?_, ?_, ?_, ?_, ?_, ?_⟩
  · intro root
    exact ⟨ModuleTree.areDetails_names tree _ root, fun _ => log_oldest_of_ok⟩
  · intro found
    exact log_hostVersion_of_ok
  · intro query e
    exact areDetails_of_error
  · intro query
    exact areDetails_answer tree outside
  · intro query event _
    cases event <;> simp [Event.level]
  · intro name version
    exact ⟨rfl, rfl⟩
  · intro release version
    exact ⟨rfl, rfl⟩

/-- The version of the oldest kernel is found without being announced. -/
theorem oldestVersion_not_announced :
    let fixture : Fixture := { dirs := [(⟨"/img/lib/modules"⟩, ["6.8.0"]),
      (⟨"/img/lib/modules/6.8.0"⟩, ["kernel"])] }
    let asked := (Query.oldestVersion ⟨"/img"⟩).answer {} fixture.outside
    asked.outcome = .ok (.version ⟨[6, 8, 0]⟩)
      ∧ ∀ event ∈ asked.log, event.level ≠ .info := by
  decide +kernel

end Query

end KernelCensus
