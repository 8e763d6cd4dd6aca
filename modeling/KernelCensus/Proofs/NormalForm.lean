/-
# Normal forms of versions

Versions are compared place by place, and the first place at which they differ decides
(`compareSegments_eq_placewise`).  The same order is read off their normal forms, which are the
segments without the zeros at the end: it is the lexicographic order of these, in which a proper
prefix is lower, so that every class of level versions has exactly one member that does not end in
a zero (`compare_by_normalForm`).
-/
import KernelCensus.Proofs.Order

namespace KernelCensus

namespace Version

/-! ## Place by place -/

/-- The comparisons at all places up to the end of the longer list; a list that has ended goes on
with zeros. -/
def placewise (as bs : List UInt64) : List Ordering :=
  (List.range (max as.length bs.length)).map fun i => compare (as.getD i 0) (bs.getD i 0)

/-- The first of some comparisons that tells two apart; without one, nothing does. -/
def firstDifference (comparisons : List Ordering) : Ordering :=
  (comparisons.find? (· != .eq)).getD .eq

/-- The places of two lists that have not both ended are the first one and those behind it. -/
theorem placewise_step {as bs : List UInt64} (going : as ≠ [] ∨ bs ≠ []) :
    placewise as bs = compare (as.headD 0) (bs.headD 0) :: placewise as.tail bs.tail := by
  have one_more : max as.length bs.length = max as.tail.length bs.tail.length + 1 := by
    have some_left : as.length ≠ 0 ∨ bs.length ≠ 0 := by simpa using going
    rw [List.length_tail, List.length_tail]
    omega
  have behind : ∀ (cs : List UInt64) (i : ℕ), cs.getD (i + 1) 0 = cs.tail.getD i 0 := by
    intro cs i
    cases cs <;> simp
  have first : ∀ cs : List UInt64, cs.getD 0 0 = cs.headD 0 := by
    intro cs
    cases cs <;> simp
  rw [placewise, one_more, List.range_succ_eq_map, List.map_cons, List.map_map, first, first]
  simp only [Function.comp_def, Nat.succ_eq_add_one, behind]
  rfl

/-- The first comparison decides unless it tells nothing. -/
theorem firstDifference_cons (o : Ordering) (os : List Ordering) :
    firstDifference (o :: os) = o.then (firstDifference os) := by
  cases o <;> rfl

/-- Segments are compared at the first place, and behind it if that is not enough. -/
theorem compareSegments_step (as bs : List UInt64) : compareSegments as bs
    = (compare (as.headD 0) (bs.headD 0)).then (compareSegments as.tail bs.tail) := by
  cases as with
  | cons a as => rfl
  | nil =>
    cases bs with
    | nil => rfl
    | cons b bs =>
      have none : significant [] = [] := List.rdropWhile_nil _
      rw [compareSegments_eq, significant_cons, none, compare_nil_push, List.headD_nil,
        List.headD_cons, List.tail_nil, List.tail_cons, compareSegments_eq, none]

/-- **The first place that differs decides.** -/
theorem compareSegments_eq_placewise (as bs : List UInt64) :
    compareSegments as bs = firstDifference (placewise as bs) := by
  -- The induction is on how many places are left.
  induction left : max as.length bs.length generalizing as bs with
  | zero =>
    have ended : as.length = 0 ∧ bs.length = 0 := by omega
    obtain rfl := List.eq_nil_of_length_eq_zero ended.1
    obtain rfl := List.eq_nil_of_length_eq_zero ended.2
    rfl
  | succ places ih =>
    have going : as ≠ [] ∨ bs ≠ [] := by
      by_contra ended
      obtain ⟨rfl, rfl⟩ : as = [] ∧ bs = [] := by simpa using ended
      cases left
    have fewer : max as.tail.length bs.tail.length = places := by
      rw [List.length_tail, List.length_tail]
      omega
    rw [placewise_step going, firstDifference_cons, compareSegments_step, ih _ _ fewer]

/-! ## Normal forms -/

/-- Segments that do not end in a zero. -/
def IsNormal (segments : List UInt64) : Prop :=
  segments.getLast? ≠ some 0

/-- A version without the zeros at its end. -/
def normalForm (v : Version) : Version :=
  ⟨significant v.segments⟩

/-- Normal segments are significant. -/
theorem IsNormal.significant_eq {segments : List UInt64} (h : IsNormal segments) :
    significant segments = segments := by
  rw [significant, List.rdropWhile_eq_self_iff]
  intro filled zero
  apply h
  rw [List.getLast?_eq_some_getLast filled]
  exact congrArg some (by simpa using zero)

/-- Significant segments do not end in a zero. -/
theorem isNormal_significant (segments : List UInt64) : IsNormal (significant segments) := by
  intro last
  have filled : significant segments ≠ [] := by
    intro none
    rw [none] at last
    cases last
  rw [List.getLast?_eq_some_getLast filled, Option.some_inj] at last
  have no_zero := List.rdropWhile_last_not (· == 0) segments filled
  exact no_zero (beq_iff_eq.mpr last)

/-- Behind the significant segments there are zeros only. -/
theorem exists_significant_append (segments : List UInt64) :
    ∃ zeros, segments = significant segments ++ List.replicate zeros 0 := by
  have dropped : segments.rtakeWhile (· == 0)
      = List.replicate (segments.rtakeWhile (· == 0)).length 0 := by
    rw [List.eq_replicate_iff]
    refine ⟨rfl, fun segment member => ?_⟩
    simpa using List.mem_rtakeWhile_imp member
  refine ⟨(segments.rtakeWhile (· == 0)).length, ?_⟩
  rw [← dropped, significant, List.rdropWhile_append_rtakeWhile]

/-- **Which segments are significant**: those up to the last one that is not zero. -/
theorem significant_eq_iff {segments kept : List UInt64} : significant segments = kept
    ↔ IsNormal kept ∧ ∃ zeros, segments = kept ++ List.replicate zeros 0 := by
  constructor
  · rintro rfl
    exact ⟨isNormal_significant segments, exists_significant_append segments⟩
  · rintro ⟨normal, zeros, rfl⟩
    rw [significant_append_zeros, normal.significant_eq]

/-- **One normal form for each class**: a version that is level with another and does not end in a
zero is the normal form of it. -/
theorem isLevel_and_isNormal_iff {v w : Version} :
    v.isLevel w = true ∧ IsNormal w.segments ↔ w = v.normalForm := by
  rw [isLevel_iff_significant, normalForm]
  constructor
  · rintro ⟨same, normal⟩
    rw [same, normal.significant_eq]
  · rintro rfl
    have normal := isNormal_significant v.segments
    exact ⟨normal.significant_eq.symm, normal⟩

/-- However many zeros a version ends in, it is of one class. -/
example : normalForm ⟨[5, 15]⟩ = ⟨[5, 15]⟩ ∧ normalForm ⟨[5, 15, 0, 0]⟩ = ⟨[5, 15]⟩ := by decide

/-! ## The lexicographic order -/

/-- Lists of segments compare as less where one comes before the other in the lexicographic
order. -/
theorem compare_eq_lt_iff_lt (as bs : List UInt64) : compare as bs = .lt ↔ as < bs := by
  induction as generalizing bs with
  | nil =>
    cases bs with
    | nil => simp [Std.ReflCmp.compare_self]
    | cons b bs => exact ⟨fun _ => List.nil_lt_cons b bs, fun _ => rfl⟩
  | cons a as ih =>
    cases bs with
    | nil => exact ⟨fun less => (by cases less), fun before => absurd before (List.not_lt_nil _)⟩
    | cons b bs =>
      rw [List.compare_cons_cons, Ordering.then_eq_lt, ih, List.cons_lt_cons_iff,
        Std.compare_eq_lt, Std.LawfulEqCmp.compare_eq_iff_eq]

/-! ## Prefixes -/

/-- Segments that two lists have in common at their front do not tell them apart. -/
theorem compareSegments_append_left (front as bs : List UInt64) :
    compareSegments (front ++ as) (front ++ bs) = compareSegments as bs := by
  induction front with
  | nil => rfl
  | cons a front ih =>
    have same : compare a a = .eq := Std.ReflCmp.compare_self
    rw [List.cons_append, List.cons_append, compareSegments_step, List.headD_cons, List.headD_cons,
      same, List.tail_cons, List.tail_cons, ih]
    rfl

/-- Further segments make a version higher unless all of them are zero. -/
theorem compareSegments_append_right (segments more : List UInt64) :
    compareSegments segments (segments ++ more)
      = if more.all (· == 0) then .eq else .lt := by
  have cancelled := compareSegments_append_left segments [] more
  rw [List.append_nil] at cancelled
  rw [cancelled]
  rfl

/-- **The order by normal forms.**  The comparison place by place is the lexicographic one of the
segments without the zeros at the end, and level versions are those of one normal form, which is the
only version of their class that does not end in a zero.  So what two versions have in common at
their front cancels, and further segments never make a version lower. -/
theorem compare_by_normalForm :
    (∀ v w : Version, compare v w = firstDifference (placewise v.segments w.segments))
    ∧ (∀ v w : Version, compare v w = compare v.normalForm.segments w.normalForm.segments)
    ∧ (∀ v w : Version, compare v w = .lt ↔ v.normalForm.segments < w.normalForm.segments)
    ∧ (∀ v w : Version, compare v w = .eq ↔ v.normalForm = w.normalForm)
    ∧ (∀ v w : Version, w = v.normalForm ↔ IsNormal w.segments
      ∧ ∃ zeros, v.segments = w.segments ++ List.replicate zeros 0)
    ∧ (∀ v w : Version, v.isLevel w = true ∧ IsNormal w.segments ↔ w = v.normalForm)
    ∧ (∀ front as bs, compare (⟨front ++ as⟩ : Version) ⟨front ++ bs⟩
      = compare (⟨as⟩ : Version) ⟨bs⟩)
    ∧ ∀ segments more, compare (⟨segments⟩ : Version) ⟨segments ++ more⟩
      = if more.all (· == 0) then .eq else .lt := by
  refine ⟨?_, compare_eq_significant, ?_, ?_, ?_, fun v w => isLevel_and_isNormal_iff,
    compareSegments_append_left, compareSegments_append_right⟩
  · intro v w
    exact compareSegments_eq_placewise v.segments w.segments
  · intro v w
    rw [compare_eq_significant, compare_eq_lt_iff_lt, normalForm, normalForm]
  · intro v w
    rw [← isLevel_iff, isLevel_iff_significant, normalForm, normalForm, Version.mk.injEq]
  · rintro v ⟨kept⟩
    rw [← significant_eq_iff, normalForm, Version.mk.injEq, eq_comm]

end Version

end KernelCensus
