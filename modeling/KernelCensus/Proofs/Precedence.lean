/-
# What keeps kernels from being read

The directory of a module tree is scanned as a whole before the first name is read as a release.  So
what comes of reading the kernels is told by the entries alone (`outcome_kernels_eq_iff`): a
directory that cannot be listed outweighs everything, then the first entry that cannot be probed,
then the first name without a version among the entries that are not empty; and where nothing of
this kind is there, the kernels are the inventory, with no entry left out (`reading_precedence`).
-/
import KernelCensus.Proofs.OldestKernel

namespace KernelCensus

/-! ## Names without a version -/

/-- Whether a name has no version. -/
def isMisnamed (name : String) : Bool :=
  (Version.ofRelease? name).isNone

/-- A name has a version unless it is misnamed. -/
theorem isMisnamed_eq_false_iff {name : String} :
    isMisnamed name = false ↔ ∃ version, Version.ofRelease? name = some version := by
  rw [isMisnamed]
  cases Version.ofRelease? name <;> simp

/-- A kernel is read off a name unless it is misnamed. -/
theorem exists_ofName_eq_ok_iff {name : String} :
    (∃ kernel, Kernel.ofName name = .ok kernel) ↔ isMisnamed name = false := by
  rw [isMisnamed_eq_false_iff]
  constructor
  · rintro ⟨kernel, read⟩
    have parsed := (Kernel.ofName_eq_ok_iff.mp read).2
    exact ⟨kernel.version, Version.ofName_eq_ok_iff.mp parsed⟩
  · rintro ⟨version, parsed⟩
    exact ⟨⟨name, version⟩,
      Kernel.ofName_eq_ok_iff.mpr ⟨rfl, Version.ofName_eq_ok_iff.mpr parsed⟩⟩

/-- The error of a misnamed kernel names it. -/
theorem ofName_eq_error_iff {name : String} {e : QueryError} :
    Kernel.ofName name = .error e ↔ isMisnamed name = true ∧ e = .badRelease name := by
  rw [Kernel.ofName, Outcome.map_eq_error_iff, Version.ofName_eq_error_iff, isMisnamed,
    Option.isNone_iff_eq_none]

/-- **Reading names fails with the first that is misnamed.** -/
theorem mapM_ofName_eq_error_iff {names : List String} {e : QueryError} :
    names.mapM Kernel.ofName = .error e
      ↔ ∃ raw, names.find? isMisnamed = some raw ∧ e = .badRelease raw := by
  simp only [Outcome.mapM_eq_error_iff, List.find?_eq_some_iff_append, exists_ofName_eq_ok_iff,
    ofName_eq_error_iff, Bool.not_eq_true']
  constructor
  · rintro ⟨before, raw, after, shape, fine, misnamed, same⟩
    exact ⟨raw, ⟨misnamed, before, after, shape, fine⟩, same⟩
  · rintro ⟨raw, ⟨misnamed, before, after, shape, fine⟩, same⟩
    exact ⟨before, raw, after, shape, fine, misnamed, same⟩

namespace ModuleTree

/-! ## What comes of reading -/

section Entries

variable {dirs : Directories} {parent : Path}

/-- An entry is unreadable where the probe of it fails. -/
theorem isUnreadable_iff {name : String} : isUnreadable dirs parent name = true
    ↔ ∃ cause, dirs.isEmpty (parent.entry name) = .error cause := by
  rw [isUnreadable]
  cases dirs.isEmpty (parent.entry name) <;> simp

/-- An entry is readable where the probe of it is answered. -/
theorem isUnreadable_eq_false_iff {name : String} : isUnreadable dirs parent name = false
    ↔ ∃ empty, dirs.isEmpty (parent.entry name) = .ok empty := by
  rw [isUnreadable]
  cases dirs.isEmpty (parent.entry name) <;> simp

/-- What comes of reading the kernels of a directory, as its entries tell it. -/
inductive Reads (dirs : Directories) (parent : Path) : Except QueryError (List Kernel) → Prop
  /-- The directory cannot be listed. -/
  | unlisted {cause : IoError} (failed : dirs.list parent = .error cause) :
    Reads dirs parent (.error (.io .enumerate parent cause))
  /-- An entry cannot be probed, and it is the first of that kind. -/
  | unreadable {listed : List String} {name : String} {cause : IoError}
    (listing : dirs.list parent = .ok listed)
    (first : listed.find? (isUnreadable dirs parent) = some name)
    (failed : dirs.isEmpty (parent.entry name) = .error cause) :
    Reads dirs parent (.error (.io .checkEmpty (parent.entry name) cause))
  /-- All entries can be probed, and of those that are not empty the first misnamed one is told. -/
  | misnamed {listed : List String} {raw : String} (listing : dirs.list parent = .ok listed)
    (readable : ∀ name ∈ listed, ∃ empty, dirs.isEmpty (parent.entry name) = .ok empty)
    (first : (listed.filter (isFilled dirs parent)).find? isMisnamed = some raw) :
    Reads dirs parent (.error (.badRelease raw))
  /-- Nothing stands in the way. -/
  | inventory {listed : List String} {kernels : List Kernel}
    (whole : IsInventory dirs parent listed kernels) : Reads dirs parent (.ok kernels)

end Entries

section Reading

variable (tree : ModuleTree) (dirs : Directories) (root : Path)

/-- A scan stops at the first entry that cannot be probed. -/
theorem outcome_names_of_unreadable {listed : List String} {name : String} {cause : IoError}
    (listing : dirs.list (tree.path root) = .ok listed)
    (first : listed.find? (isUnreadable dirs (tree.path root)) = some name)
    (failed : dirs.isEmpty ((tree.path root).entry name) = .error cause) :
    (tree.names dirs root).outcome
      = .error (.io .checkEmpty ((tree.path root).entry name) cause) := by
  obtain ⟨-, before, after, rfl, readable⟩ := List.find?_eq_some_iff_append.mp first
  rcases exists_answers dirs (tree.path root) before with
    ⟨answers, rfl, all⟩ | ⟨answers, other, rest, e, rfl, all, failed'⟩
  · rw [names_of_failure listing all failed]
  · -- An entry before the first unreadable one is readable.
    have fine := readable other (by simp)
    rw [isUnreadable_iff.mpr ⟨e, failed'⟩] at fine
    cases fine

/-- **The entries tell what comes of reading.** -/
theorem Reads.outcome_eq {result : Except QueryError (List Kernel)}
    (h : Reads dirs (tree.path root) result) : (tree.kernels dirs root).outcome = result := by
  cases h with
  | unlisted failed => rw [outcome_kernels, names_of_list_error failed]; rfl
  | unreadable listing first failed =>
    rw [outcome_kernels, outcome_names_of_unreadable tree dirs root listing first failed]
    rfl
  | misnamed listing readable first =>
    have scanned := (tree.outcome_names_eq_ok_iff dirs root).mpr ⟨_, listing, readable, rfl⟩
    rw [outcome_kernels, scanned]
    exact mapM_ofName_eq_error_iff.mpr ⟨_, first, rfl⟩
  | inventory whole => exact (tree.outcome_kernels_eq_ok_iff dirs root).mpr ⟨_, whole⟩

/-- **Something comes of reading every directory.** -/
theorem exists_reads : ∃ result, Reads dirs (tree.path root) result := by
  cases listing : dirs.list (tree.path root) with
  | error cause => exact ⟨_, .unlisted listing⟩
  | ok listed =>
    cases stuck : listed.find? (isUnreadable dirs (tree.path root)) with
    | some name =>
      obtain ⟨cause, failed⟩ := isUnreadable_iff.mp (List.find?_some stuck)
      exact ⟨_, .unreadable listing stuck failed⟩
    | none =>
      have readable : ∀ name ∈ listed,
          ∃ empty, dirs.isEmpty ((tree.path root).entry name) = .ok empty := by
        intro name member
        have fine := List.find?_eq_none.mp stuck name member
        exact isUnreadable_eq_false_iff.mp (Bool.eq_false_iff.mpr fine)
      cases strange : (listed.filter (isFilled dirs (tree.path root))).find? isMisnamed with
      | some raw => exact ⟨_, .misnamed listing readable strange⟩
      | none =>
        -- All names are read, and what is read off them is the inventory.
        have scanned := (tree.outcome_names_eq_ok_iff dirs root).mpr ⟨_, listing, readable, rfl⟩
        cases read : (tree.kernels dirs root).outcome with
        | error e =>
          rw [outcome_kernels, scanned] at read
          obtain ⟨raw, found, -⟩ := mapM_ofName_eq_error_iff.mp read
          rw [strange] at found
          cases found
        | ok kernels =>
          obtain ⟨_, whole⟩ := (tree.outcome_kernels_eq_ok_iff dirs root).mp read
          exact ⟨_, .inventory whole⟩

/-- **What comes of reading is what the entries tell.** -/
theorem outcome_kernels_eq_iff {result : Except QueryError (List Kernel)} :
    (tree.kernels dirs root).outcome = result ↔ Reads dirs (tree.path root) result := by
  constructor
  · rintro rfl
    obtain ⟨result, told⟩ := tree.exists_reads dirs root
    rw [told.outcome_eq]
    exact told
  · exact Reads.outcome_eq tree dirs root

/-- Reading fails for want of a version where everything can be probed and an entry that is not
empty is misnamed; the first of these is told. -/
theorem outcome_kernels_eq_badRelease_iff {raw : String} :
    (tree.kernels dirs root).outcome = .error (.badRelease raw)
      ↔ ∃ listed, dirs.list (tree.path root) = .ok listed
        ∧ (∀ name ∈ listed, ∃ empty, dirs.isEmpty ((tree.path root).entry name) = .ok empty)
        ∧ (listed.filter (isFilled dirs (tree.path root))).find? isMisnamed = some raw := by
  rw [outcome_kernels_eq_iff]
  constructor
  · intro told
    cases told with
    | misnamed listing readable first => exact ⟨_, listing, readable, first⟩
  · rintro ⟨listed, listing, readable, first⟩
    exact .misnamed listing readable first

/-- Kernels can be read where every entry is empty, whatever its name, or has a version. -/
theorem exists_outcome_kernels_eq_ok_iff :
    (∃ kernels, (tree.kernels dirs root).outcome = .ok kernels)
      ↔ ∃ listed, dirs.list (tree.path root) = .ok listed
        ∧ ∀ name ∈ listed, dirs.isEmpty ((tree.path root).entry name) = .ok true
          ∨ dirs.isEmpty ((tree.path root).entry name) = .ok false
            ∧ ∃ version, Version.ofRelease? name = some version := by
  constructor
  · rintro ⟨kernels, read⟩
    obtain ⟨listed, whole⟩ := (tree.outcome_kernels_eq_ok_iff dirs root).mp read
    refine ⟨listed, whole.listing, fun name member => ?_⟩
    obtain ⟨empty, answered⟩ := whole.readable name member
    cases empty with
    | true => exact Or.inl answered
    | false =>
      have filled : name ∈ listed.filter (isFilled dirs (tree.path root)) :=
        List.mem_filter.mpr ⟨member, isFilled_iff.mpr answered⟩
      rw [← whole.named] at filled
      obtain ⟨kernel, among, rfl⟩ := List.mem_map.mp filled
      exact Or.inr ⟨answered, kernel.version, whole.parsed kernel among⟩
  · rintro ⟨listed, listing, fine⟩
    have readable : ∀ name ∈ listed,
        ∃ empty, dirs.isEmpty ((tree.path root).entry name) = .ok empty := by
      intro name member
      rcases fine name member with answered | ⟨answered, -⟩
      · exact ⟨true, answered⟩
      · exact ⟨false, answered⟩
    have scanned := (tree.outcome_names_eq_ok_iff dirs root).mpr ⟨_, listing, readable, rfl⟩
    rw [outcome_kernels, scanned]
    refine Outcome.exists_mapM_eq_ok_iff.mpr fun name member => ?_
    obtain ⟨among, filled⟩ := List.mem_filter.mp member
    rw [exists_ofName_eq_ok_iff, isMisnamed_eq_false_iff]
    -- What is kept is not empty, and so it has a version.
    rcases fine name among with answered | ⟨-, parsed⟩
    · cases (isFilled_iff.mp filled).symm.trans answered
    · exact parsed

/-- Reading fails where the scan does, with its error, and else at the first misnamed name. -/
theorem outcome_kernels_eq_error_iff {e : QueryError} :
    (tree.kernels dirs root).outcome = .error e ↔ (tree.names dirs root).outcome = .error e
      ∨ ∃ names raw, (tree.names dirs root).outcome = .ok names
        ∧ names.find? isMisnamed = some raw ∧ e = .badRelease raw := by
  rw [outcome_kernels]
  cases (tree.names dirs root).outcome with
  | error d => simp [bind, Except.bind]
  | ok names => simp [Outcome.ok_bind, mapM_ofName_eq_error_iff]

end Reading

/-- **What outweighs what in reading versions.**  A name without a version fails the reading only
where the whole scan succeeds, and then the first one is told among the names of what is not empty;
an entry that cannot be probed fails it wherever it stands, with its own error; an empty entry never
does, whatever its name.  Otherwise every entry that is not empty is read.  Versions are read as
kernels are, and fail as they do. -/
theorem reading_precedence (tree : ModuleTree) (dirs : Directories) (root : Path) :
    (∀ raw, (tree.kernels dirs root).outcome = .error (.badRelease raw)
      ↔ ∃ listed, dirs.list (tree.path root) = .ok listed
        ∧ (∀ name ∈ listed, ∃ empty, dirs.isEmpty ((tree.path root).entry name) = .ok empty)
        ∧ (listed.filter (isFilled dirs (tree.path root))).find? isMisnamed = some raw)
    ∧ (∀ raw, (tree.kernels dirs root).outcome = .error (.badRelease raw) →
      (∃ names, (tree.names dirs root).outcome = .ok names ∧ names.find? isMisnamed = some raw)
      ∧ dirs.isEmpty ((tree.path root).entry raw) = .ok false ∧ Version.ofRelease? raw = none)
    ∧ (∀ listed, dirs.list (tree.path root) = .ok listed →
      (∃ name ∈ listed, ∃ cause, dirs.isEmpty ((tree.path root).entry name) = .error cause) →
      ∃ name cause, listed.find? (isUnreadable dirs (tree.path root)) = some name
        ∧ dirs.isEmpty ((tree.path root).entry name) = .error cause
        ∧ (tree.kernels dirs root).outcome
          = .error (.io .checkEmpty ((tree.path root).entry name) cause))
    ∧ (∀ e, (tree.kernels dirs root).outcome = .error e ↔ (tree.names dirs root).outcome = .error e
      ∨ ∃ names raw, (tree.names dirs root).outcome = .ok names
        ∧ names.find? isMisnamed = some raw ∧ e = .badRelease raw)
    ∧ ((∃ kernels, (tree.kernels dirs root).outcome = .ok kernels)
      ↔ ∃ listed, dirs.list (tree.path root) = .ok listed
        ∧ ∀ name ∈ listed, dirs.isEmpty ((tree.path root).entry name) = .ok true
          ∨ dirs.isEmpty ((tree.path root).entry name) = .ok false
            ∧ ∃ version, Version.ofRelease? name = some version)
    ∧ (∀ kernels, (tree.kernels dirs root).outcome = .ok kernels
      ↔ ∃ listed, IsInventory dirs (tree.path root) listed kernels)
    ∧ (∀ kernels, (tree.kernels dirs root).outcome = .ok kernels →
      (tree.names dirs root).outcome = .ok (kernels.map Kernel.name))
    ∧ (tree.versions dirs root).outcome
      = (tree.kernels dirs root).outcome.map (List.map Kernel.version) := by
  refine ⟨fun raw => tree.outcome_kernels_eq_badRelease_iff dirs root, ?_, ?_,
    fun e => tree.outcome_kernels_eq_error_iff dirs root,
    tree.exists_outcome_kernels_eq_ok_iff dirs root,
    fun kernels => tree.outcome_kernels_eq_ok_iff dirs root,
    fun kernels read => (tree.names_of_outcome_kernels dirs root read).1,
    tree.outcome_versions_eq_map dirs root⟩
  · intro raw failed
    obtain ⟨listed, listing, readable, first⟩ :=
      (tree.outcome_kernels_eq_badRelease_iff dirs root).mp failed
    have scanned := (tree.outcome_names_eq_ok_iff dirs root).mpr ⟨_, listing, readable, rfl⟩
    have filled := (List.mem_filter.mp (List.mem_of_find?_eq_some first)).2
    have misnamed : isMisnamed raw = true := List.find?_some first
    exact ⟨⟨_, scanned, first⟩, isFilled_iff.mp filled, Option.isNone_iff_eq_none.mp misnamed⟩
  · rintro listed listing ⟨name, member, cause, failed⟩
    obtain ⟨stuck, first⟩ :
        ∃ stuck, listed.find? (isUnreadable dirs (tree.path root)) = some stuck := by
      rw [← Option.isSome_iff_exists, List.find?_isSome]
      exact ⟨name, member, isUnreadable_iff.mpr ⟨cause, failed⟩⟩
    obtain ⟨cause', failed'⟩ := isUnreadable_iff.mp (List.find?_some first)
    exact ⟨stuck, cause', first, failed',
      Reads.outcome_eq tree dirs root (.unreadable listing first failed')⟩

end ModuleTree

end KernelCensus
