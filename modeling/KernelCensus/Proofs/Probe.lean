/-
# Listings and probes

Listing a directory and probing it for emptiness take two ways to one answer.  A path that leads to
no node is refused by both with the same error: it cannot be walked at all (`Walk.Malformed`), or an
obstacle stops the walk on its way (`Walk.Stops`).  Where a path leads to a directory, a listing
names entries exactly if the probe finds some, unless a name is no text; where it leads to something
else, both fail, each in its own words (`listing_agrees_with_probe`).
-/
import KernelCensus.Proofs.Census

namespace KernelCensus

variable {α : Type}

namespace Walk

/-! ## Obstacles -/

/-- Why a path cannot be walked at all. -/
inductive Malformed : List UInt8 → IoError → Prop
  | zeroByte {path : List UInt8} (zero : 0 ∈ path) : Malformed path .zeroByte
  | empty : Malformed [] .noEntry
  | tooLong {path : List UInt8} (no_zero : 0 ∉ path) (long : maxPath < path.length) :
    Malformed path .nameTooLong

/-- What stops a walk at a location, where it may follow so many more links and is to take the given
step. -/
inductive Obstacle (root : Node α) : Nat → List EntryName → EntryName → IoError → Prop
  | outside {links : Nat} {here : List EntryName} {step : EntryName}
    (no_dir : ∀ entries, root.at? here ≠ some (.dir entries)) :
    Obstacle root links here step .notADirectory
  | tooLong {links : Nat} {here : List EntryName} {step : EntryName}
    {entries : List (EntryName × Node α)} (inside : root.at? here = some (.dir entries))
    (ne_dot : step ≠ dot) (ne_dotDot : step ≠ dotDot) (long : maxName < step.length) :
    Obstacle root links here step .nameTooLong
  | nothing {links : Nat} {here : List EntryName} {step : EntryName}
    {entries : List (EntryName × Node α)} (inside : root.at? here = some (.dir entries))
    (named : IsNamed step) (missing : entries.lookup step = none) :
    Obstacle root links here step .noEntry
  | lastLink {here : List EntryName} {step : EntryName} {entries : List (EntryName × Node α)}
    {target : List UInt8} (inside : root.at? here = some (.dir entries)) (named : IsNamed step)
    (found : entries.lookup step = some (.link target)) :
    Obstacle root 0 here step .tooManyLinks

/-- `Stops root links here trail e`: a walk that may follow so many links takes some of the steps
and then meets an obstacle. -/
inductive Stops (root : Node α) : Nat → List EntryName → List EntryName → IoError → Prop
  | now {links : Nat} {here rest : List EntryName} {step : EntryName} {e : IoError}
    (obstacle : Obstacle root links here step e) : Stops root links here (step :: rest) e
  | later {used links : Nat} {here next before rest : List EntryName} {step : EntryName}
    {e : IoError} (first : Step root here step used next before)
    (onward : Stops root links next (before ++ rest) e) :
    Stops root (used + links) here (step :: rest) e

variable {root : Node α} {links used : Nat} {here next before trail there : List EntryName}
  {step : EntryName} {path : List UInt8} {e : IoError}

/-- A path is refused for the reason that it cannot be walked. -/
theorem checkPath_eq_error_iff : checkPath path = .error e ↔ Malformed path e := by
  rw [checkPath]
  constructor
  · intro refused
    split at refused
    · next zero =>
      cases refused
      exact .zeroByte (List.contains_iff_mem.mp zero)
    · next no_zero =>
      split at refused
      · next empty =>
        cases refused
        rw [List.isEmpty_iff.mp empty]
        exact .empty
      · split at refused
        · next long =>
          cases refused
          exact .tooLong (fun zero => no_zero (List.contains_iff_mem.mpr zero)) long
        · cases refused
  · intro malformed
    cases malformed with
    | zeroByte zero => rw [if_pos (List.contains_iff_mem.mpr zero)]
    | empty => rfl
    | tooLong no_zero long =>
      have filled : path.isEmpty = false := by
        rw [List.isEmpty_eq_false_iff]
        rintro rfl
        exact absurd long (Nat.not_lt_zero _)
      rw [if_neg fun zero => no_zero (List.contains_iff_mem.mp zero), filled,
        if_neg Bool.false_ne_true, if_pos long]

/-- A walk fails with the obstacle that it meets. -/
theorem along_of_obstacle (obstacle : Obstacle root links here step e) (rest : List EntryName) :
    along root links here (step :: rest) = .error e := by
  cases obstacle with
  | outside no_dir =>
    rw [along]
    split
    · next entries inside => exact absurd inside (no_dir entries)
    · rfl
  | tooLong inside ne_dot ne_dotDot long =>
    rw [along, inside]
    simp only [if_neg ne_dot, if_neg ne_dotDot, if_pos long]
  | nothing inside named missing =>
    rw [along, inside]
    simp only [if_neg named.ne_dot, if_neg named.ne_dotDot, if_neg (Nat.not_lt.mpr named.short),
      missing]
  | lastLink inside named found =>
    rw [along, inside]
    simp only [if_neg named.ne_dot, if_neg named.ne_dotDot, if_neg (Nat.not_lt.mpr named.short),
      found]

/-- What stops a walk behind a step that follows no link stops it before that step. -/
theorem Stops.of_step_zero {rest : List EntryName} (first : Step root here step 0 next [])
    (onward : Stops root links next rest e) : Stops root links here (step :: rest) e := by
  rw [← Nat.zero_add links]
  exact .later first onward

/-- A walk that fails is stopped by an obstacle. -/
theorem stops_of_along (h : along root links here trail = .error e) :
    Stops root links here trail e := by
  -- The cases are those of `along`; a step that is taken leaves the obstacle to the induction.
  fun_induction along root links here trail with
  | case1 => cases h
  | case2 links here rest entries inside ih =>
    exact .of_step_zero (.stay inside) (ih h)
  | case3 links here rest entries inside _ ih =>
    exact .of_step_zero (.up inside) (ih h)
  | case4 links here step rest entries inside ne_dot ne_dotDot long =>
    cases h
    exact .now (.tooLong inside ne_dot ne_dotDot long)
  | case5 links here step rest entries inside ne_dot ne_dotDot short missing =>
    cases h
    exact .now (.nothing inside ⟨ne_dot, ne_dotDot, Nat.not_lt.mp short⟩ missing)
  | case6 here step rest entries inside ne_dot ne_dotDot short target found =>
    cases h
    exact .now (.lastLink inside ⟨ne_dot, ne_dotDot, Nat.not_lt.mp short⟩ found)
  | case7 here step rest entries inside ne_dot ne_dotDot short target found left ih =>
    rw [Nat.succ_eq_add_one, Nat.add_comm]
    exact .later (.follow inside ⟨ne_dot, ne_dotDot, Nat.not_lt.mp short⟩ found) (ih h)
  | case8 links here step rest entries inside ne_dot ne_dotDot short node no_link found ih =>
    have named : IsNamed step := ⟨ne_dot, ne_dotDot, Nat.not_lt.mp short⟩
    exact .of_step_zero (.enter inside named found no_link) (ih h)
  | case9 links here step rest no_dir =>
    cases h
    exact .now (.outside no_dir)

/-- **A walk fails exactly if an obstacle stops it**, with the error that the obstacle is. -/
theorem along_eq_error_iff : along root links here trail = .error e
    ↔ Stops root links here trail e := by
  refine ⟨stops_of_along, fun stops => ?_⟩
  induction stops with
  | now obstacle => exact along_of_obstacle obstacle _
  | later first _ ih => rw [along_step first, ih]

/-! ## Walks that arrive -/

/-- What is above a node is a node. -/
theorem isSome_at_dropLast (there : (root.at? here).isSome) :
    (root.at? here.dropLast).isSome := by
  obtain ⟨rest, split⟩ := here.dropLast_prefix
  rw [← split, Node.at?_append] at there
  exact Option.isSome_of_isSome_bind there

/-- A step leads to a node. -/
theorem Step.isSome_at (first : Step root here step used next before) :
    (root.at? next).isSome := by
  cases first with
  | stay inside => rw [inside]; rfl
  | up inside => exact isSome_at_dropLast (by rw [inside]; rfl)
  | enter inside named found no_link => rw [Node.at?_concat inside, found]; rfl
  | follow inside named found =>
    rw [start]
    split
    · rfl
    · rw [inside]; rfl

/-- A walk from a node leads to a node. -/
theorem Leads.isSome_at (h : Leads root used here trail there)
    (from_node : (root.at? here).isSome) : (root.at? there).isSome := by
  induction h with
  | arrive => exact from_node
  | step first _ ih => exact ih first.isSome_at

/-- A byte between slashes is in some part. -/
theorem exists_part_of_mem {b : UInt8} (inside : b ∈ path) (no_slash : b ≠ slash) :
    ∃ part ∈ splitSlash path, b ∈ part := by
  induction path with
  | nil => cases inside
  | cons c path ih =>
    rw [splitSlash]
    by_cases parting : c = slash
    · rw [if_pos parting]
      rcases List.mem_cons.mp inside with rfl | later
      · exact absurd parting no_slash
      · obtain ⟨part, among, held⟩ := ih later
        exact ⟨part, List.mem_cons_of_mem _ among, held⟩
    · obtain ⟨first, others, shape⟩ := List.exists_cons_of_ne_nil (splitSlash_ne_nil path)
      rw [if_neg parting, shape]
      rcases List.mem_cons.mp inside with rfl | later
      · exact ⟨b :: first, List.mem_cons_self, List.mem_cons_self⟩
      · obtain ⟨part, among, held⟩ := ih later
        rw [shape] at among
        rcases List.mem_cons.mp among with rfl | behind
        · exact ⟨c :: part, List.mem_cons_self, List.mem_cons_of_mem _ held⟩
        · exact ⟨part, List.mem_cons_of_mem _ behind, held⟩

/-- A path that is not empty takes at least one step. -/
theorem steps_ne_nil (filled : path ≠ []) : steps path ≠ [] := by
  rw [steps]
  by_cases slash_last : path.getLast? = some slash
  · rw [if_pos slash_last]
    exact List.append_ne_nil_of_right_ne_nil _ (List.cons_ne_nil _ _)
  · -- The last byte belongs to a part that is not empty.
    have no_slash : path.getLast filled ≠ slash := by
      intro last
      exact slash_last (by rw [List.getLast?_eq_some_getLast filled, last])
    obtain ⟨part, among, held⟩ := exists_part_of_mem (List.getLast_mem filled) no_slash
    have kept : part ∈ (splitSlash path).filter fun part => !part.isEmpty :=
      List.mem_filter.mpr ⟨among, by simpa using List.ne_nil_of_mem held⟩
    rw [if_neg slash_last, List.append_nil]
    exact List.ne_nil_of_mem kept

/-- A path that is not empty leads to a node, if it leads anywhere. -/
theorem Leads.isSome_at_of_steps (filled : path ≠ [])
    (h : Leads root used here (steps path) there) : (root.at? there).isSome := by
  obtain ⟨step, rest, shape⟩ := List.exists_cons_of_ne_nil (steps_ne_nil filled)
  rw [shape] at h
  cases h with
  | step first onward => exact onward.isSome_at first.isSome_at

end Walk

namespace Machine

variable {machine : Machine α} {path : Path} {e : IoError}

/-! ## Paths that lead nowhere -/

/-- A path is refused with an error: it cannot be walked, or an obstacle stops the walk. -/
inductive Refuses (machine : Machine α) (path : Path) (e : IoError) : Prop
  | malformed (reason : Walk.Malformed (Utf8.encode path.text) e) : Refuses machine path e
  | stopped (walkable : Walk.IsWalkable (Utf8.encode path.text))
    (stops : Walk.Stops machine.root Walk.maxLinks
      (Walk.start machine.here (Utf8.encode path.text)) (Walk.steps (Utf8.encode path.text)) e) :
    Refuses machine path e

/-- A path is not located exactly if it is refused. -/
theorem locate_eq_error_iff :
    Walk.locate machine.root machine.here (Utf8.encode path.text) = .error e
      ↔ machine.Refuses path e := by
  rw [Walk.locate]
  cases checked : Walk.checkPath (Utf8.encode path.text) with
  | error reason =>
    rw [Outcome.error_bind, Except.error.injEq]
    constructor
    · rintro rfl
      exact .malformed (Walk.checkPath_eq_error_iff.mp checked)
    · rintro (malformed | ⟨walkable, -⟩)
      · exact Except.error.inj (checked.symm.trans (Walk.checkPath_eq_error_iff.mpr malformed))
      · cases checked.symm.trans (Walk.checkPath_eq_ok_iff.mpr walkable)
  | ok _ =>
    rw [Outcome.ok_bind, Walk.along_eq_error_iff]
    constructor
    · exact .stopped (Walk.checkPath_eq_ok_iff.mp checked)
    · rintro (malformed | ⟨-, stops⟩)
      · cases checked.symm.trans (Walk.checkPath_eq_error_iff.mpr malformed)
      · exact stops

/-- **A path leads to a node, or it is refused.** -/
theorem node_eq_error_iff : machine.node path = .error e ↔ machine.Refuses path e := by
  rw [← locate_eq_error_iff, node, nodeAt]
  cases located : Walk.locate machine.root machine.here (Utf8.encode path.text) with
  | error reason => rw [Outcome.error_bind, Except.error.injEq, Except.error.injEq]
  | ok there =>
    obtain ⟨links, -, reaches⟩ := locate_eq_ok_iff.mp located
    obtain ⟨node, held⟩ := Option.isSome_iff_exists.mp
      (reaches.leads.isSome_at_of_steps reaches.walkable.filled)
    rw [Outcome.ok_bind, held]
    exact ⟨fun h => (by cases h), fun h => (by cases h)⟩

/-- A path that is refused is neither listed nor probed. -/
theorem Refuses.list_isEmpty (h : machine.Refuses path e) :
    machine.list path = .error e ∧ machine.isEmpty path = .error e := by
  have no_node := node_eq_error_iff.mpr h
  rw [list, isEmpty, no_node]
  exact ⟨rfl, rfl⟩

/-- A path that leads to something else than a directory is neither listed nor probed. -/
theorem list_isEmpty_of_no_dir {node : Node α} (leads : machine.LeadsTo path node)
    (no_dir : ∀ entries, node ≠ .dir entries) :
    machine.list path
      = .error { kind := .invalidInput, message := s!"not a directory: {path.text}" }
      ∧ machine.isEmpty path = .error .notADirectory := by
  rw [list, isEmpty, node_eq_ok_iff.mpr leads]
  cases node with
  | dir entries => exact absurd rfl (no_dir entries)
  | _ => exact ⟨rfl, rfl⟩

/-- **Every path leads to a node or is refused.** -/
theorem leadsTo_or_refuses (machine : Machine α) (path : Path) :
    (∃ node, machine.LeadsTo path node) ∨ ∃ e, machine.Refuses path e := by
  cases found : machine.node path with
  | error e => exact Or.inr ⟨e, node_eq_error_iff.mp found⟩
  | ok node => exact Or.inl ⟨node, node_eq_ok_iff.mp found⟩

/-! ## Directories -/

/-- A listing has as many names as the directory has entries. -/
theorem length_of_list {names : List String} {entries : List (EntryName × Node α)}
    (listing : machine.list path = .ok names) (leads : machine.LeadsTo path (.dir entries)) :
    names.length = entries.length := by
  rw [← List.length_map Utf8.encode, encode_of_list listing leads,
    (sortedNames_perm entries).length_eq, List.length_map]

/-- What is listed is told empty or not as its names are. -/
theorem isEmpty_of_list {names : List String} (listing : machine.list path = .ok names) :
    machine.isEmpty path = .ok names.isEmpty := by
  obtain ⟨entries, leads, -⟩ := list_eq_ok_iff.mp listing
  refine isEmpty_eq_ok_iff.mpr ⟨entries, leads, ?_⟩
  rw [Bool.eq_iff_iff, List.isEmpty_iff_length_eq_zero, List.isEmpty_iff_length_eq_zero,
    length_of_list listing leads]

/-- A directory is not listed exactly if some name is no text, and then as invalid. -/
theorem exists_list_eq_error_iff {entries : List (EntryName × Node α)}
    (leads : machine.LeadsTo path (.dir entries)) :
    (∃ e, e.kind = .invalidData ∧ machine.list path = .error e) ↔ HasStrangeName entries := by
  constructor
  · rintro ⟨e, -, failed⟩
    by_contra plain
    obtain ⟨names, listing⟩ := (exists_list_eq_ok_iff leads).mpr plain
    cases failed.symm.trans listing
  · intro strange
    cases listing : machine.list path with
    | error e => exact ⟨e, kind_of_list_error leads listing, rfl⟩
    | ok names => exact absurd strange ((exists_list_eq_ok_iff leads).mp ⟨names, listing⟩)

/-- A directory that is told empty is listed, without names. -/
theorem list_of_isEmpty (empty : machine.isEmpty path = .ok true) : machine.list path = .ok [] := by
  obtain ⟨entries, leads, none⟩ := isEmpty_eq_ok_iff.mp empty
  obtain rfl := List.isEmpty_iff.mp none
  exact list_eq_ok_iff.mpr ⟨[], leads, (sortedNames_perm []).eq_nil.symm⟩

/-- **A listing and a probe of one path agree.**  What is listed is told empty if and only if no
name is listed.  What is told empty is listed, without names; what is told not to be empty is
listed with some, unless the name of an entry is no text: then, and only then, the listing fails as
invalid.  A probe fails where the path is refused, and the listing fails there with the same error;
or where the path leads to something else than a directory, which is an invalid input to a listing
and no directory to a probe.  That is so for whatever path: an empty one, one with a zero byte, one
that is too long or has a name that is too long, one that leads over links to nothing or over too
many. -/
theorem listing_agrees_with_probe (machine : Machine α) (path : Path) :
    let listing := machine.list path
    let probe := machine.isEmpty path
    (∀ names, listing = .ok names → probe = .ok names.isEmpty)
    ∧ (probe = .ok true → listing = .ok [])
    ∧ (probe = .ok false → ∃ entries, machine.LeadsTo path (.dir entries)
      ∧ ((∃ names, names ≠ [] ∧ listing = .ok names) ↔ ¬ HasStrangeName entries)
      ∧ ((∃ e, e.kind = .invalidData ∧ listing = .error e) ↔ HasStrangeName entries))
    ∧ (∀ e, probe = .error e → (machine.Refuses path e ∧ listing = .error e)
      ∨ ∃ node, machine.LeadsTo path node ∧ (∀ entries, node ≠ .dir entries)
        ∧ e = { kind := .notADirectory, message := "Not a directory (os error 20)" }
        ∧ listing = .error { kind := .invalidInput, message := s!"not a directory: {path.text}" })
    ∧ (∀ e, machine.Refuses path e → probe = .error e ∧ listing = .error e)
    ∧ ∀ node, machine.LeadsTo path node → (∀ entries, node ≠ .dir entries) →
      probe = .error { kind := .notADirectory, message := "Not a directory (os error 20)" }
      ∧ listing
        = .error { kind := .invalidInput, message := s!"not a directory: {path.text}" } := by
  refine ⟨fun names => isEmpty_of_list, list_of_isEmpty, ?_, ?_, ?_, ?_⟩
  · intro filled
    obtain ⟨entries, leads, some_entry⟩ := isEmpty_eq_ok_iff.mp filled
    refine ⟨entries, leads, ?_, exists_list_eq_error_iff leads⟩
    rw [← exists_list_eq_ok_iff leads]
    constructor
    · rintro ⟨names, -, listing⟩
      exact ⟨names, listing⟩
    · rintro ⟨names, listing⟩
      refine ⟨names, ?_, listing⟩
      rintro rfl
      cases filled.symm.trans (isEmpty_of_list listing)
  · intro e failed
    rcases machine.leadsTo_or_refuses path with ⟨node, leads⟩ | ⟨reason, refused⟩
    · have no_dir : ∀ entries, node ≠ .dir entries := by
        rintro entries rfl
        exact exists_isEmpty_eq_error_iff.mp ⟨e, failed⟩ entries leads
      obtain ⟨listing, probe⟩ := list_isEmpty_of_no_dir leads no_dir
      exact Or.inr ⟨node, leads, no_dir, Except.error.inj (failed.symm.trans probe), listing⟩
    · obtain ⟨listing, probe⟩ := refused.list_isEmpty
      obtain rfl := Except.error.inj (failed.symm.trans probe)
      exact Or.inl ⟨refused, listing⟩
  · intro e refused
    exact refused.list_isEmpty.symm
  · intro node leads no_dir
    exact (list_isEmpty_of_no_dir leads no_dir).symm

end Machine

end KernelCensus
