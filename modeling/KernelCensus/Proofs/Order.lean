/-
# The tolerant order

The comparison of versions is the lexicographic one of their segments without trailing zeros, in
which a proper prefix comes first (`compareSegments_eq`).  From it the versions inherit the laws of
that order: it is transitive and oriented, and versions that are level cannot be told apart by any
comparison (`compare_isTotalPreorder`).
-/
import KernelCensus.Version.Basic
import Mathlib.Data.List.DropRight

namespace KernelCensus

namespace Version

/-! ## Trailing zeros -/

/-- Segments without the zeros at their end. -/
def significant (segments : List UInt64) : List UInt64 :=
  segments.rdropWhile (· == 0)

/-- A segment before significant ones; a zero before none is not significant. -/
def push (a : UInt64) (as : List UInt64) : List UInt64 :=
  if a = 0 ∧ as = [] then [] else a :: as

/-- Dropping trailing zeros goes on behind the first segment. -/
theorem significant_cons (a : UInt64) (as : List UInt64) :
    significant (a :: as) = push a (significant as) := by
  rw [significant, significant, List.rdropWhile, List.reverse_cons, List.dropWhile_append, push]
  by_cases zeros : as.rdropWhile (· == 0) = []
  · have dropped : as.reverse.dropWhile (· == 0) = [] := List.reverse_eq_nil_iff.mp zeros
    rw [dropped, zeros]
    by_cases zero : a = 0 <;> simp [zero]
  · have kept : (as.reverse.dropWhile (· == 0)).isEmpty = false := by
      rw [List.isEmpty_eq_false_iff]
      exact fun dropped => zeros (List.reverse_eq_nil_iff.mpr dropped)
    rw [kept, if_neg Bool.false_ne_true, if_neg fun h => zeros h.2, List.reverse_append]
    rfl

/-- There are no significant segments exactly where all are zero. -/
theorem significant_eq_nil_iff (as : List UInt64) :
    significant as = [] ↔ as.all (· == 0) = true := by
  rw [significant, List.rdropWhile_eq_nil_iff, List.all_eq_true]

/-- Zeros at the end change nothing. -/
theorem significant_append_zeros (as : List UInt64) (zeros : ℕ) :
    significant (as ++ List.replicate zeros 0) = significant as := by
  induction zeros with
  | zero => rw [List.replicate_zero, List.append_nil]
  | succ zeros ih =>
    rw [List.replicate_succ', ← List.append_assoc, significant,
      List.rdropWhile_concat_pos _ _ _ rfl]
    exact ih

/-! ## The lexicographic order -/

/-- Nothing compares with a list as a zero before nothing does. -/
theorem compare_nil_push (b : UInt64) (bs : List UInt64) :
    compare [] (push b bs) = (compare 0 b).then (compare [] bs) := by
  rw [push]
  by_cases none : b = 0 ∧ bs = []
  · obtain ⟨rfl, rfl⟩ := none
    rfl
  · rw [if_neg none]
    by_cases zero : b = 0
    · obtain ⟨c, cs, rfl⟩ := List.exists_cons_of_ne_nil fun empty => none ⟨zero, empty⟩
      rw [zero]
      rfl
    · have positive : (0 : UInt64) < b := UInt64.pos_iff_ne_zero.mpr zero
      rw [Std.compare_eq_lt.mpr positive]
      rfl

/-- The first segments decide unless they are the same, also where a zero was dropped. -/
theorem compare_push (a b : UInt64) (as bs : List UInt64) :
    compare (push a as) (push b bs) = (compare a b).then (compare as bs) := by
  -- Where a zero was dropped on one side, that side is empty and stands for zeros.
  by_cases none_left : a = 0 ∧ as = []
  · obtain ⟨rfl, rfl⟩ := none_left
    exact compare_nil_push b bs
  · by_cases none_right : b = 0 ∧ bs = []
    · obtain ⟨rfl, rfl⟩ := none_right
      rw [Std.OrientedOrd.eq_swap, push, if_pos ⟨rfl, rfl⟩, compare_nil_push,
        Ordering.swap_then, ← Std.OrientedOrd.eq_swap, ← Std.OrientedOrd.eq_swap]
    · rw [push, push, if_neg none_left, if_neg none_right, List.compare_cons_cons]

/-- **The comparison is the lexicographic one of significant segments.** -/
theorem compareSegments_eq (as bs : List UInt64) :
    compareSegments as bs = compare (significant as) (significant bs) := by
  induction as generalizing bs with
  | nil =>
    rw [compareSegments, significant, List.rdropWhile_nil]
    by_cases zeros : bs.all (· == 0) = true
    · rw [if_pos zeros, (significant_eq_nil_iff bs).mpr zeros]
      rfl
    · rw [if_neg zeros]
      have kept := fun none => zeros ((significant_eq_nil_iff bs).mp none)
      obtain ⟨b, rest, shape⟩ := List.exists_cons_of_ne_nil kept
      rw [shape]
      rfl
  | cons a as ih =>
    -- The right list may have ended, and then goes on with zeros.
    have padded : significant bs = push (bs.headD 0) (significant bs.tail) := by
      cases bs with
      | nil => rfl
      | cons b bs => exact significant_cons b bs
    rw [compareSegments, ih, significant_cons, padded, compare_push]

/-! ## The laws of the order -/

/-- The comparison of versions, through their significant segments. -/
theorem compare_eq_significant (v w : Version) :
    compare v w = compare (significant v.segments) (significant w.segments) := by
  rw [compare_eq, compareSegments_eq]

instance : Std.TransOrd Version where
  eq_swap := by
    intro v w
    rw [compare_eq_significant, compare_eq_significant w v]
    exact Std.OrientedCmp.eq_swap
  isLE_trans := by
    intro u v w
    rw [compare_eq_significant, compare_eq_significant v w, compare_eq_significant u w]
    exact Std.TransCmp.isLE_trans

/-- Versions are level where they compare as equal. -/
theorem isLevel_iff {v w : Version} : v.isLevel w = true ↔ compare v w = .eq := by
  rw [isLevel, beq_iff_eq]

/-- Versions are level where they have the same significant segments. -/
theorem isLevel_iff_significant {v w : Version} :
    v.isLevel w = true ↔ significant v.segments = significant w.segments := by
  rw [isLevel_iff, compare_eq_significant, Std.LawfulEqCmp.compare_eq_iff_eq]

/-- One version is below another where it compares as less. -/
theorem lt_iff {v w : Version} : v < w ↔ compare v w = .lt := Iff.rfl

/-- One version is at most another where it does not compare as greater. -/
theorem le_iff {v w : Version} : v ≤ w ↔ compare v w ≠ .gt :=
  Ordering.isLE_iff_ne_gt

/-- One version is at least another where it does not compare as less. -/
theorem ge_iff {v w : Version} : v ≥ w ↔ compare v w ≠ .lt := by
  rw [ge_iff_le, le_iff, ne_eq, ne_eq, Std.OrientedCmp.gt_iff_lt]

/-- Being level is an equivalence. -/
theorem isLevel_equivalence : Equivalence fun v w : Version => v.isLevel w = true where
  refl := fun _ => isLevel_iff_significant.mpr rfl
  symm := fun h => isLevel_iff_significant.mpr (isLevel_iff_significant.mp h).symm
  trans := fun h h' => isLevel_iff_significant.mpr
    ((isLevel_iff_significant.mp h).trans (isLevel_iff_significant.mp h'))

/-- Level versions compare alike. -/
theorem compare_congr {v v' w w' : Version} (left : v.isLevel v' = true)
    (right : w.isLevel w' = true) : compare v w = compare v' w' := by
  rw [compare_eq_significant, compare_eq_significant v' w', isLevel_iff_significant.mp left,
    isLevel_iff_significant.mp right]

/-- Of two versions the first is the minimum if it is at most the second. -/
theorem min_max_of_le {v w : Version} (h : v ≤ w) : min v w = v ∧ max v w = w :=
  ⟨if_pos h, if_pos h⟩

/-- Of two versions the first is the maximum if it is not at most the second. -/
theorem min_max_of_not_le {v w : Version} (h : ¬ v ≤ w) : min v w = w ∧ max v w = v :=
  ⟨if_neg h, if_neg h⟩

/-- **A total preorder in which level versions are interchangeable.**  Every operation on versions
follows their comparison; of two versions one is the minimum and the other the maximum, and of level
ones the first is the minimum. -/
theorem compare_isTotalPreorder :
    (∀ v : Version, compare v v = .eq)
    ∧ (∀ v w : Version, compare v w = (compare w v).swap)
    ∧ (∀ u v w : Version, u ≤ v → v ≤ w → u ≤ w ∧ (u < v ∨ v < w → u < w))
    ∧ (Equivalence fun v w : Version => v.isLevel w = true)
    ∧ (∀ v v' w w' : Version, v.isLevel v' = true → w.isLevel w' = true →
      compare v w = compare v' w')
    ∧ (∀ segments zeros, isLevel ⟨segments⟩ ⟨segments ++ List.replicate zeros 0⟩ = true)
    ∧ (∀ v w : Version, v.partialCompare w = some (compare v w)
      ∧ (v.isLevel w = true ↔ compare v w = .eq)
      ∧ ((!v.isLevel w) = true ↔ compare v w ≠ .eq)
      ∧ (v < w ↔ compare v w = .lt)
      ∧ (v ≤ w ↔ compare v w ≠ .gt)
      ∧ (v > w ↔ compare v w = .gt)
      ∧ (v ≥ w ↔ compare v w ≠ .lt))
    ∧ (∀ v w : Version, (min v w = v ∧ max v w = w ∨ min v w = w ∧ max v w = v)
      ∧ min v w ≤ max v w
      ∧ (v.isLevel w = true → min v w = v ∧ max v w = w)) := by
  refine ⟨?_, ?_, ?_, isLevel_equivalence, ?_, ?_, ?_, ?_⟩
  · intro v
    exact Std.ReflCmp.compare_self
  · intro v w
    exact Std.OrientedCmp.eq_swap
  · intro u v w first second
    refine ⟨Std.TransCmp.isLE_trans first second, ?_⟩
    rintro (strict | strict)
    · exact Std.TransCmp.lt_of_lt_of_isLE strict second
    · exact Std.TransCmp.lt_of_isLE_of_lt first strict
  · intro v v' w w' left right
    exact compare_congr left right
  · intro segments zeros
    rw [isLevel_iff_significant, significant_append_zeros]
  · intro v w
    refine ⟨rfl, isLevel_iff, ?_, lt_iff, le_iff, ?_, ge_iff⟩
    · rw [Bool.not_eq_true', Bool.eq_false_iff, ne_eq, isLevel_iff]
    · exact Std.OrientedCmp.gt_iff_lt.symm
  · intro v w
    by_cases ordered : v ≤ w
    · obtain ⟨is_min, is_max⟩ := min_max_of_le ordered
      exact ⟨Or.inl ⟨is_min, is_max⟩, by rwa [is_min, is_max], fun _ => ⟨is_min, is_max⟩⟩
    · obtain ⟨is_min, is_max⟩ := min_max_of_not_le ordered
      have greater : compare v w = .gt := not_not.mp fun h => ordered (le_iff.mpr h)
      refine ⟨Or.inr ⟨is_min, is_max⟩, ?_, ?_⟩
      · rw [is_min, is_max, le_iff, Std.OrientedOrd.eq_swap, greater]
        decide
      · intro level
        rw [isLevel_iff, greater] at level
        cases level

end Version

end KernelCensus
