/-
# Stale entries

A removed package may leave an empty directory behind.  Such stale entries are invisible: a listing
may gain or lose them anywhere and in any number, and yet every query about the image has the same
outcome, down to the entry that an error names and the one of several level kernels that is chosen
(`answer_sameRecordsBut`).  Only the records of these entries come and go with them, that they were
probed and that they were skipped.
-/
import KernelCensus.Proofs.Query
import Mathlib.Logic.Relation

namespace KernelCensus

/-! ## Lists that gain and lose elements -/

section SameBut

variable {α β : Type} {p : α → Prop}

/-- One element that satisfies a predicate is inserted into a list. -/
inductive Inserts (p : α → Prop) : List α → List α → Prop
  | at (before after : List α) {a : α} (h : p a) :
    Inserts p (before ++ after) (before ++ a :: after)

/-- Elements that satisfy a predicate are inserted into a list and deleted from it, anywhere and in
any number; all others stay as they are. -/
def SameBut (p : α → Prop) : List α → List α → Prop :=
  Relation.EqvGen (Inserts p)

/-- Nothing need be inserted or deleted. -/
theorem SameBut.refl (xs : List α) : SameBut p xs xs :=
  Relation.EqvGen.refl xs

/-- What is inserted can be deleted again. -/
theorem SameBut.symm {xs ys : List α} (h : SameBut p xs ys) : SameBut p ys xs :=
  Relation.EqvGen.symm xs ys h

/-- Insertions and deletions go on after others. -/
theorem SameBut.trans {xs ys zs : List α} (h : SameBut p xs ys) (h' : SameBut p ys zs) :
    SameBut p xs zs :=
  Relation.EqvGen.trans xs ys zs h h'

/-- An element that satisfies the predicate can be inserted. -/
theorem SameBut.insert (before after : List α) {a : α} (h : p a) :
    SameBut p (before ++ after) (before ++ a :: after) :=
  Relation.EqvGen.rel _ _ (.at before after h)

/-- Insertions and deletions stay possible in a longer list. -/
theorem SameBut.append {xs ys : List α} (h : SameBut p xs ys) (first last : List α) :
    SameBut p (first ++ xs ++ last) (first ++ ys ++ last) := by
  induction h with
  | rel xs ys inserted =>
    obtain ⟨before, after, satisfied⟩ := inserted
    have longer := SameBut.insert (first ++ before) (after ++ last) satisfied
    simpa only [List.append_assoc, List.cons_append] using longer
  | refl xs => exact .refl _
  | symm xs ys _ ih => exact ih.symm
  | trans xs ys zs _ _ ih ih' => exact ih.trans ih'

/-- A list is the same but for what a filter takes out of it. -/
theorem SameBut.filter [DecidablePred p] (xs : List α) :
    SameBut p (xs.filter fun a => ¬ p a) xs := by
  induction xs with
  | nil => exact .refl _
  | cons a xs ih =>
    have behind : SameBut p (a :: xs.filter fun a => ¬ p a) (a :: xs) := by
      simpa using ih.append [a] []
    by_cases satisfied : p a
    · rw [List.filter_cons_of_neg (by simpa using satisfied)]
      exact (SameBut.insert [] _ satisfied).trans behind
    · rw [List.filter_cons_of_pos (by simpa using satisfied)]
      exact behind

/-- **Lists are the same but for some elements where the others are the same, in order.** -/
theorem sameBut_iff_filter_eq [DecidablePred p] {xs ys : List α} :
    SameBut p xs ys ↔ (xs.filter fun a => ¬ p a) = ys.filter fun a => ¬ p a := by
  constructor
  · intro h
    induction h with
    | rel xs ys inserted =>
      obtain ⟨before, after, satisfied⟩ := inserted
      rw [List.filter_append, List.filter_append,
        List.filter_cons_of_neg (by simpa using satisfied)]
    | refl xs => rfl
    | symm xs ys _ ih => exact ih.symm
    | trans xs ys zs _ _ ih ih' => exact ih.trans ih'
  · intro same
    have left := SameBut.filter (p := p) xs
    rw [same] at left
    exact left.symm.trans (SameBut.filter ys)

end SameBut

namespace ModuleTree

/-! ## Scans of listings that gain and lose stale names -/

/-- That an entry of one of the given names was skipped. -/
def SkipsOne (among : String → Prop) (parent : Path) (event : Event) : Prop :=
  ∃ name, among name ∧ event = .skippedEmpty (parent.entry name)

/-- That an entry of one of the given names was probed. -/
def ProbesOne (among : String → Prop) (parent : Path) (call : Call) : Prop :=
  ∃ name, among name ∧ call = probe parent name

/-- Two computations with the same outcome, whose records differ at most in that entries of the
given names were probed and skipped. -/
structure SameRecordsBut {α : Type} (among : String → Prop) (parent : Path)
    (x y : Traced QueryError α) : Prop where
  outcome : x.outcome = y.outcome
  log : SameBut (SkipsOne among parent) x.log y.log
  calls : SameBut (ProbesOne among parent) x.calls y.calls

section SameRecordsBut

variable {α β : Type} {among : String → Prop} {parent : Path}

/-- A computation has its own records. -/
theorem SameRecordsBut.refl (x : Traced QueryError α) : SameRecordsBut among parent x x :=
  ⟨rfl, .refl _, .refl _⟩

/-- The records of two computations may be compared either way. -/
theorem SameRecordsBut.symm {x y : Traced QueryError α} (h : SameRecordsBut among parent x y) :
    SameRecordsBut among parent y x :=
  ⟨h.outcome.symm, h.log.symm, h.calls.symm⟩

/-- The records of computations may be compared through a third one. -/
theorem SameRecordsBut.trans {x y z : Traced QueryError α} (h : SameRecordsBut among parent x y)
    (h' : SameRecordsBut among parent y z) : SameRecordsBut among parent x z :=
  ⟨h.outcome.trans h'.outcome, h.log.trans h'.log, h.calls.trans h'.calls⟩

/-- Going on in one way adds the same records. -/
theorem SameRecordsBut.bind {x y : Traced QueryError α} (h : SameRecordsBut among parent x y)
    (next : α → Traced QueryError β) : SameRecordsBut among parent (x >>= next) (y >>= next) := by
  obtain ⟨outcome, log, calls⟩ := x
  obtain ⟨outcome', log', calls'⟩ := y
  obtain ⟨same, told, made⟩ := h
  obtain rfl : outcome = outcome' := same
  cases outcome with
  | error e => exact ⟨rfl, told, made⟩
  | ok a => exact ⟨rfl, told.append [] _, made.append [] _⟩

end SameRecordsBut

/-- **One stale entry is skipped wherever it stands**, unless the scan has ended before it. -/
theorem probeEntries_insert {dirs : Directories} {parent : Path} {among : String → Prop}
    {name : String} (member : among name) (stale : dirs.isEmpty (parent.entry name) = .ok true)
    (before after : List String) :
    SameRecordsBut among parent (probeEntries dirs parent (before ++ after))
      (probeEntries dirs parent (before ++ name :: after)) := by
  rcases exists_answers dirs parent before with
    ⟨answers, rfl, all⟩ | ⟨answers, failing, rest, e, rfl, all, failed⟩
  · rw [probeEntries_append all, probeEntries_append all, probeEntries_ok after stale]
    refine ⟨?_, SameBut.insert _ _ ⟨name, member, rfl⟩, SameBut.insert _ _ ⟨name, member, rfl⟩⟩
    -- Nothing is kept of the stale entry.
    cases (probeEntries dirs parent after).outcome <;> rfl
  · have ended : ∀ later,
        probeEntries dirs parent (answers.map Prod.fst ++ failing :: rest ++ later)
        = ⟨.error (.io .checkEmpty (parent.entry failing) e), answers.map (told parent),
          (answers.map Prod.fst).map (probe parent) ++ [probe parent failing]⟩ := by
      intro later
      rw [List.append_assoc, probeEntries_append all, List.cons_append,
        probeEntries_error _ failed]
      exact Traced.ext rfl (List.append_nil _) rfl
    rw [ended, ended]
    exact .refl _

/-- **Stale entries are skipped wherever they stand.** -/
theorem probeEntries_sameRecordsBut {dirs : Directories} {parent : Path} {among : String → Prop}
    (stale : ∀ name, among name → dirs.isEmpty (parent.entry name) = .ok true)
    {listed listed' : List String} (edited : SameBut among listed listed') :
    SameRecordsBut among parent (probeEntries dirs parent listed)
      (probeEntries dirs parent listed') := by
  induction edited with
  | rel listed listed' inserted =>
    obtain ⟨before, after, member⟩ := inserted
    exact probeEntries_insert member (stale _ member) before after
  | refl listed => exact .refl _
  | symm listed listed' _ ih => exact ih.symm
  | trans listed listed' listed'' _ _ ih ih' => exact ih.trans ih'

/-! ## Queries -/

/-- A scan of a listing that gains and loses stale names. -/
theorem names_sameRecordsBut (tree : ModuleTree) (root : Path) {dirs dirs' : Directories}
    (probes : dirs.isEmpty = dirs'.isEmpty) {among : String → Prop}
    (stale : ∀ name, among name → dirs.isEmpty ((tree.path root).entry name) = .ok true)
    {listed listed' : List String} (listing : dirs.list (tree.path root) = .ok listed)
    (listing' : dirs'.list (tree.path root) = .ok listed') (edited : SameBut among listed listed') :
    SameRecordsBut among (tree.path root) (tree.names dirs root) (tree.names dirs' root) := by
  have probed := probeEntries_sameRecordsBut stale edited
  have alike : probeEntries dirs (tree.path root) listed'
      = probeEntries dirs' (tree.path root) listed' :=
    probeEntries_congr fun name _ => congrFun probes _
  rw [alike] at probed
  rw [names_of_list_ok listing, names_of_list_ok listing']
  exact ⟨probed.outcome, probed.log, by simpa using probed.calls.append [.list (tree.path root)] []⟩

/-- **Stale entries are invisible.**  If the listing of the module tree gains and loses entries that
are empty directories, and changes in nothing else, every query about the image has the same
outcome, and its records differ only in that such entries were probed and skipped. -/
theorem answer_sameRecordsBut (tree : ModuleTree) (root : Path) {outside outside' : Outside}
    (probes : outside.directories.isEmpty = outside'.directories.isEmpty) {among : String → Prop}
    (stale : ∀ name, among name →
      outside.directories.isEmpty ((tree.path root).entry name) = .ok true)
    {listed listed' : List String}
    (listing : outside.directories.list (tree.path root) = .ok listed)
    (listing' : outside'.directories.list (tree.path root) = .ok listed')
    (edited : SameBut among listed listed') :
    ∀ query ∈ Query.ofImage root, SameRecordsBut among (tree.path root)
      (query.answer tree outside) (query.answer tree outside') := by
  intro query asked
  obtain ⟨conclude, -, rests⟩ := Query.restsOnScan_answer tree root query asked
  have answered : ∀ other : Outside, query.answer tree other
      = tree.names other.directories root >>= conclude := rests
  rw [answered, answered]
  exact (tree.names_sameRecordsBut root probes stale listing listing' edited).bind conclude

/-- A stale name that is no release appears and another one goes: the first of two level kernels is
still the oldest. -/
theorem answer_sameRecordsBut_oldest :
    let stale := ["extramodules", "5.4"]
    let isStale (path : Path) : Bool := stale.any fun name => path == ⟨"image/lib/modules/" ++ name⟩
    let dirs (names : List String) : Directories :=
      ⟨fun _ => .ok names, fun path => .ok (isStale path)⟩
    let outside : Outside := ⟨dirs ["6.8", "5.4", "6.8.0-48"], .error (.hostQuery .emptyCommand)⟩
    let outside' : Outside :=
      ⟨dirs ["extramodules", "6.8", "6.8.0-48"], .error (.hostQuery .emptyCommand)⟩
    SameBut (· ∈ stale) ["6.8", "5.4", "6.8.0-48"] ["extramodules", "6.8", "6.8.0-48"]
    ∧ ((Query.oldest ⟨"image"⟩).answer {} outside).outcome = .ok (.kernel ⟨"6.8", ⟨[6, 8]⟩⟩)
    ∧ SameRecordsBut (· ∈ stale) ⟨"image/lib/modules"⟩ ((Query.oldest ⟨"image"⟩).answer {} outside)
      ((Query.oldest ⟨"image"⟩).answer {} outside') := by
  intro stale isStale dirs outside outside'
  have edited : SameBut (· ∈ stale) ["6.8", "5.4", "6.8.0-48"]
      ["extramodules", "6.8", "6.8.0-48"] := sameBut_iff_filter_eq.mpr (by decide)
  have empty : ∀ name ∈ stale,
      outside.directories.isEmpty ((ModuleTree.path {} ⟨"image"⟩).entry name) = .ok true := by
    decide +kernel
  have probes : outside.directories.isEmpty = outside'.directories.isEmpty := rfl
  exact ⟨edited, by decide +kernel,
    answer_sameRecordsBut {} ⟨"image"⟩ probes empty rfl rfl edited _ (by decide)⟩

end ModuleTree

end KernelCensus
