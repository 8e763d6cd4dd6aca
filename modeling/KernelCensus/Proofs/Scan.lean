/-
# Scans

A scan of the module tree lists one directory and then probes the listed entries one after the
other.  What it yields, logs and calls is a function of the listing and of the answers to its
probes: a scan fails with the listing, or with the first probe that fails, and otherwise keeps
exactly the names whose directories are not empty (`names_trichotomy`).
-/
import KernelCensus.ModuleTree
import KernelCensus.Proofs.Outcome

namespace KernelCensus

namespace ModuleTree

/-! ## Answers -/

/-- Names paired with what their probes below a directory answer. -/
def Answers (dirs : Directories) (parent : Path) (answers : List (String × Bool)) : Prop :=
  ∀ answer ∈ answers, dirs.isEmpty (parent.entry answer.1) = .ok answer.2

/-- The names whose directories are not empty, in order. -/
def kept (answers : List (String × Bool)) : List String :=
  (answers.filter fun answer => !answer.2).map Prod.fst

/-- What is kept of an answer stands before what is kept of those after it. -/
theorem kept_cons (answer : String × Bool) (answers : List (String × Bool)) :
    kept (answer :: answers) = kept [answer] ++ kept answers := by
  rw [kept, ← List.singleton_append, List.filter_append, List.map_append]
  rfl

/-- The event that tells of an answer. -/
def told (parent : Path) (answer : String × Bool) : Event :=
  if answer.2 then .skippedEmpty (parent.entry answer.1) else .foundKernel (parent.entry answer.1)

/-- The call that probes an entry. -/
def probe (parent : Path) (name : String) : Call :=
  .isEmpty (parent.entry name)

/-- Every list of names has an answer for each, or for those before the first failed probe. -/
theorem exists_answers (dirs : Directories) (parent : Path) (names : List String) :
    (∃ answers, names = answers.map Prod.fst ∧ Answers dirs parent answers)
    ∨ ∃ answers name rest e, names = answers.map Prod.fst ++ name :: rest
      ∧ Answers dirs parent answers ∧ dirs.isEmpty (parent.entry name) = .error e := by
  induction names with
  | nil => exact Or.inl ⟨[], rfl, by simp [Answers]⟩
  | cons name names ih =>
    cases probed : dirs.isEmpty (parent.entry name) with
    | error e => exact Or.inr ⟨[], name, names, e, rfl, by simp [Answers], probed⟩
    | ok empty =>
      have extended : ∀ answers, Answers dirs parent answers →
          Answers dirs parent ((name, empty) :: answers) :=
        fun answers all => List.forall_mem_cons.mpr ⟨probed, all⟩
      rcases ih with ⟨answers, rfl, all⟩ | ⟨answers, failing, rest, e, rfl, all, failed⟩
      · exact Or.inl ⟨(name, empty) :: answers, rfl, extended answers all⟩
      · exact Or.inr ⟨(name, empty) :: answers, failing, rest, e, rfl, extended answers all, failed⟩

/-! ## Probing -/

/-- A failed probe ends the scan at once. -/
theorem probeEntries_error {dirs : Directories} {parent : Path} {name : String} {e : IoError}
    (rest : List String) (h : dirs.isEmpty (parent.entry name) = .error e) :
    probeEntries dirs parent (name :: rest)
      = ⟨.error (.io .checkEmpty (parent.entry name) e), [], [probe parent name]⟩ := by
  rw [probeEntries, h]
  exact Traced.called_error_bind _ _ _

/-- An answered probe adds its event and call, and its name unless the directory is empty. -/
theorem probeEntries_ok {dirs : Directories} {parent : Path} {name : String} {empty : Bool}
    (rest : List String) (h : dirs.isEmpty (parent.entry name) = .ok empty) :
    probeEntries dirs parent (name :: rest)
      = ⟨(probeEntries dirs parent rest).outcome.map (kept [(name, empty)] ++ ·),
        told parent (name, empty) :: (probeEntries dirs parent rest).log,
        probe parent name :: (probeEntries dirs parent rest).calls⟩ := by
  rw [probeEntries, h]
  show Traced.called (probe parent name) (.ok empty) >>= _ = _
  rw [Traced.called_ok_bind]
  cases empty with
  | true =>
    rw [if_pos rfl, Traced.logged_bind]
    cases (probeEntries dirs parent rest).outcome <;> rfl
  | false =>
    rw [if_neg Bool.false_ne_true, Traced.logged_bind, Traced.bind_pure]
    rfl

/-- Probing depends on the answers to the probes only. -/
theorem probeEntries_congr {dirs dirs' : Directories} {parent : Path} {listed : List String}
    (same : ∀ name ∈ listed,
      dirs.isEmpty (parent.entry name) = dirs'.isEmpty (parent.entry name)) :
    probeEntries dirs parent listed = probeEntries dirs' parent listed := by
  induction listed with
  | nil => rfl
  | cons name rest ih =>
    obtain ⟨first, others⟩ := List.forall_mem_cons.mp same
    rw [probeEntries, probeEntries, first, ih others]

/-- **What answered probes leave behind.**  Names whose probes are answered add their events and
calls to those of the names after them, and the kept ones of them to the outcome. -/
theorem probeEntries_append {dirs : Directories} {parent : Path} {answers : List (String × Bool)}
    (all : Answers dirs parent answers) (rest : List String) :
    probeEntries dirs parent (answers.map Prod.fst ++ rest)
      = ⟨(probeEntries dirs parent rest).outcome.map (kept answers ++ ·),
        answers.map (told parent) ++ (probeEntries dirs parent rest).log,
        (answers.map Prod.fst).map (probe parent) ++ (probeEntries dirs parent rest).calls⟩ := by
  induction answers with
  | nil =>
    refine Traced.ext ?_ rfl rfl
    cases shape : (probeEntries dirs parent rest).outcome <;> simp [shape, kept, Except.map]
  | cons answer answers ih =>
    obtain ⟨probed, others⟩ := List.forall_mem_cons.mp all
    rw [List.map_cons, List.cons_append, probeEntries_ok _ probed, ih others]
    refine Traced.ext ?_ rfl rfl
    -- A failure behind the answered probes passes through; what is kept there goes behind theirs.
    cases (probeEntries dirs parent rest).outcome with
    | error e => rfl
    | ok names =>
      simp only [Except.map]
      rw [kept_cons answer answers, List.append_assoc]

/-! ## The scan -/

/-- A listing that fails ends the scan. -/
theorem names_of_list_error {tree : ModuleTree} {dirs : Directories} {root : Path} {e : IoError}
    (h : dirs.list (tree.path root) = .error e) :
    tree.names dirs root
      = ⟨.error (.io .enumerate (tree.path root) e), [], [.list (tree.path root)]⟩ := by
  rw [names, h]
  exact Traced.called_error_bind _ _ _

/-- After the listing its names are probed. -/
theorem names_of_list_ok {tree : ModuleTree} {dirs : Directories} {root : Path}
    {listed : List String} (h : dirs.list (tree.path root) = .ok listed) :
    tree.names dirs root
      = ⟨(probeEntries dirs (tree.path root) listed).outcome,
        (probeEntries dirs (tree.path root) listed).log,
        .list (tree.path root) :: (probeEntries dirs (tree.path root) listed).calls⟩ := by
  rw [names, h]
  exact Traced.called_ok_bind _ _ _

/-- A listing whose names are all answered: those of non-empty directories are kept. -/
theorem names_of_answers {tree : ModuleTree} {dirs : Directories} {root : Path}
    {answers : List (String × Bool)}
    (listing : dirs.list (tree.path root) = .ok (answers.map Prod.fst))
    (all : Answers dirs (tree.path root) answers) :
    tree.names dirs root
      = ⟨.ok (kept answers), answers.map (told (tree.path root)),
        .list (tree.path root) :: (answers.map Prod.fst).map (probe (tree.path root))⟩ := by
  have through := probeEntries_append all []
  rw [List.append_nil] at through
  rw [names_of_list_ok listing, through]
  refine Traced.ext ?_ (List.append_nil _) (congrArg (List.cons _) (List.append_nil _))
  exact congrArg Except.ok (List.append_nil _)

/-- A listing with a name whose probe fails behind answered ones: the failure ends the scan. -/
theorem names_of_failure {tree : ModuleTree} {dirs : Directories} {root : Path}
    {answers : List (String × Bool)} {name : String} {rest : List String} {e : IoError}
    (listing : dirs.list (tree.path root) = .ok (answers.map Prod.fst ++ name :: rest))
    (all : Answers dirs (tree.path root) answers)
    (failed : dirs.isEmpty ((tree.path root).entry name) = .error e) :
    tree.names dirs root
      = ⟨.error (.io .checkEmpty ((tree.path root).entry name) e),
        answers.map (told (tree.path root)),
        .list (tree.path root)
          :: (answers.map Prod.fst ++ [name]).map (probe (tree.path root))⟩ := by
  rw [names_of_list_ok listing, probeEntries_append all, probeEntries_error rest failed,
    List.map_append]
  exact Traced.ext rfl (List.append_nil _) rfl

/-! ## The outcome of a scan -/

/-- A name with the answer to the probe of its entry, or the error that names the entry. -/
def answerOf (dirs : Directories) (parent : Path) (name : String) :
    Except QueryError (String × Bool) :=
  ((dirs.isEmpty (parent.entry name)).mapError (.io .checkEmpty (parent.entry name))).map
    (Prod.mk name)

/-- A probe that fails has an error that names the entry. -/
theorem exists_io_of_answerOf_error {dirs : Directories} {parent : Path} {name : String}
    {e : QueryError} (h : answerOf dirs parent name = .error e) :
    ∃ cause, dirs.isEmpty (parent.entry name) = .error cause
      ∧ .io .checkEmpty (parent.entry name) cause = e :=
  Outcome.mapError_eq_error_iff.mp (Outcome.map_eq_error_iff.mp h)

/-- Probing entries reads their answers one after the other and keeps names of them. -/
theorem outcome_probeEntries (dirs : Directories) (parent : Path) (listed : List String) :
    (probeEntries dirs parent listed).outcome
      = (listed.mapM (answerOf dirs parent)).map kept := by
  induction listed with
  | nil => rfl
  | cons name rest ih =>
    rw [List.mapM_cons, answerOf]
    cases probed : dirs.isEmpty (parent.entry name) with
    | error e => rw [probeEntries_error rest probed]; rfl
    | ok empty =>
      rw [probeEntries_ok rest probed, ih]
      cases rest.mapM (answerOf dirs parent) with
      | error e => rfl
      | ok answers => exact congrArg Except.ok (kept_cons (name, empty) answers).symm

/-- **The outcome of a scan** is that of its listing and then of the probes of what was listed. -/
theorem outcome_names (tree : ModuleTree) (dirs : Directories) (root : Path) :
    (tree.names dirs root).outcome
      = (dirs.list (tree.path root)).mapError (.io .enumerate (tree.path root))
        >>= fun listed => (listed.mapM (answerOf dirs (tree.path root))).map kept := by
  cases listing : dirs.list (tree.path root) with
  | error e => rw [names_of_list_error listing]; rfl
  | ok listed =>
    rw [names_of_list_ok listing]
    exact outcome_probeEntries dirs (tree.path root) listed

/-! ## How a scan ends -/

/-- Answers are told for debugging, with the directory that was probed. -/
theorem told_level_text (parent : Path) (answer : String × Bool) :
    (told parent answer).level = .debug
      ∧ (told parent answer).text
        = (if answer.2 then "skipping empty kernel directory " else "found kernel directory ")
          ++ (parent.entry answer.1).text := by
  rw [told]
  split <;> exact ⟨rfl, rfl⟩

/-- A scan lists the directory of the module tree and probes listed entries of it only. -/
theorem mem_calls_names {tree : ModuleTree} {dirs : Directories} {root : Path} {call : Call}
    (h : call ∈ (tree.names dirs root).calls) :
    call = .list (tree.path root) ∨ ∃ listed name, dirs.list (tree.path root) = .ok listed
      ∧ name ∈ listed ∧ call = probe (tree.path root) name := by
  cases listing : dirs.list (tree.path root) with
  | error e =>
    rw [names_of_list_error listing] at h
    exact Or.inl (List.mem_singleton.mp h)
  | ok listed =>
    rcases exists_answers dirs (tree.path root) listed with
      ⟨answers, rfl, all⟩ | ⟨answers, name, rest, e, rfl, all, failed⟩
    · rw [names_of_answers listing all] at h
      rcases List.mem_cons.mp h with first | later
      · exact Or.inl first
      · obtain ⟨name, member, rfl⟩ := List.mem_map.mp later
        exact Or.inr ⟨_, name, rfl, member, rfl⟩
    · rw [names_of_failure listing all failed] at h
      rcases List.mem_cons.mp h with first | later
      · exact Or.inl first
      · obtain ⟨other, member, rfl⟩ := List.mem_map.mp later
        refine Or.inr ⟨_, other, rfl, ?_, rfl⟩
        rcases List.mem_append.mp member with before | last
        · exact List.mem_append_left _ before
        · exact List.mem_append_right _ (List.mem_cons.mpr (Or.inl (List.mem_singleton.mp last)))

/-- **How a scan ends.**  It fails with its listing, having probed nothing; or with the first probe
that fails, having probed nothing behind it; or it keeps the names whose directories are not empty.
Before that it told of each answered probe, in order. -/
theorem names_trichotomy (tree : ModuleTree) (dirs : Directories) (root : Path) :
    let parent := tree.path root
    let scan := tree.names dirs root
    ((∃ e, dirs.list parent = .error e
        ∧ scan.outcome = .error (.io .enumerate parent e)
        ∧ scan.log = [] ∧ scan.calls = [.list parent])
      ∨ (∃ answers name rest e,
        dirs.list parent = .ok (answers.map Prod.fst ++ name :: rest)
        ∧ Answers dirs parent answers ∧ dirs.isEmpty (parent.entry name) = .error e
        ∧ scan.outcome = .error (.io .checkEmpty (parent.entry name) e)
        ∧ scan.log = answers.map (told parent)
        ∧ scan.calls = .list parent :: (answers.map Prod.fst ++ [name]).map (probe parent))
      ∨ ∃ answers, dirs.list parent = .ok (answers.map Prod.fst)
        ∧ Answers dirs parent answers
        ∧ scan.outcome = .ok (kept answers)
        ∧ scan.log = answers.map (told parent)
        ∧ scan.calls = .list parent :: (answers.map Prod.fst).map (probe parent))
    ∧ (∀ answer, (told parent answer).level = .debug
      ∧ (told parent answer).text
        = (if answer.2 then "skipping empty kernel directory " else "found kernel directory ")
          ++ (parent.entry answer.1).text)
    ∧ ScanAction.enumerate.text = "enumerate kernels under"
    ∧ ScanAction.checkEmpty.text = "check if directory is empty" := by
  intro parent scan
  refine ⟨?_, told_level_text parent, rfl, rfl⟩
  cases listing : dirs.list parent with
  | error e =>
    have ended : scan = _ := names_of_list_error listing
    refine Or.inl ⟨e, rfl, ?_⟩
    rw [ended]
    exact ⟨rfl, rfl, rfl⟩
  | ok listed =>
    rcases exists_answers dirs parent listed with
      ⟨answers, rfl, all⟩ | ⟨answers, name, rest, e, rfl, all, failed⟩
    · have ended : scan = _ := names_of_answers listing all
      refine Or.inr (Or.inr ⟨answers, rfl, all, ?_⟩)
      rw [ended]
      exact ⟨rfl, rfl, rfl⟩
    · have ended : scan = _ := names_of_failure listing all failed
      refine Or.inr (Or.inl ⟨answers, name, rest, e, rfl, all, failed, ?_⟩)
      rw [ended]
      exact ⟨rfl, rfl, rfl⟩

end ModuleTree

end KernelCensus
