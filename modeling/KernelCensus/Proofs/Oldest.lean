/-
# The oldest of several candidates

The choice among candidates is the first that no other is lower than (`isFirstOldest_of_oldestBy`).
So the order of the candidates decides only which of several level ones is chosen
(`isLevel_of_oldestBy_perm`).  Choosing among what is read off candidates is choosing among the
candidates (`oldestBy_map`).
-/
import KernelCensus.Proofs.Order
import KernelCensus.Version.Ranking

namespace KernelCensus

/-! ## Comparing -/

namespace Version

/-- What is not lower is at least. -/
theorem le_of_not_lt {v w : Version} (h : ¬ v < w) : w ≤ v := by
  rw [le_iff, ne_eq, Std.OrientedCmp.gt_iff_lt]
  exact h

/-- What is at least is not lower. -/
theorem not_lt_of_le {v w : Version} (h : v ≤ w) : ¬ w < v := by
  rw [le_iff, ne_eq, Std.OrientedCmp.gt_iff_lt] at h
  exact h

/-- Lower than something that is at most a third is lower than the third. -/
theorem lt_of_lt_of_le {u v w : Version} (strict : u < v) (h : v ≤ w) : u < w :=
  Std.TransCmp.lt_of_lt_of_isLE strict h

/-- At most something that is lower than a third is lower than the third. -/
theorem lt_of_le_of_lt {u v w : Version} (h : u ≤ v) (strict : v < w) : u < w :=
  Std.TransCmp.lt_of_isLE_of_lt h strict

/-- Every version is at most itself. -/
theorem le_refl (v : Version) : v ≤ v := by
  have level : compare v v = .eq := Std.ReflCmp.compare_self
  rw [le_iff, level]
  decide

/-- What is lower is at most. -/
theorem le_of_lt {v w : Version} (h : v < w) : v ≤ w := by
  rw [le_iff, lt_iff.mp h]
  decide

/-- Versions of which each is at most the other are level. -/
theorem isLevel_of_le_of_le {v w : Version} (h : v ≤ w) (h' : w ≤ v) : v.isLevel w = true := by
  rw [isLevel_iff]
  rw [le_iff] at h
  rw [← ge_iff_le, ge_iff] at h'
  cases order : compare v w with
  | lt => exact absurd order h'
  | eq => rfl
  | gt => exact absurd order h

end Version

/-! ## Choosing -/

variable {α β : Type}

/-- Nothing is chosen exactly where there is nothing to choose from. -/
theorem oldestBy_eq_none_iff {version : α → Version} {xs : List α} :
    oldestBy version xs = none ↔ xs = [] := by
  cases xs with
  | nil => exact ⟨fun _ => rfl, fun _ => rfl⟩
  | cons x xs => exact ⟨fun h => (by cases h), fun h => (by cases h)⟩

/-- Choosing among what is read off candidates is reading it off the chosen one. -/
theorem oldestBy_map (version : β → Version) (f : α → β) (xs : List α) :
    oldestBy version (xs.map f) = (oldestBy (fun a => version (f a)) xs).map f := by
  cases xs with
  | nil => rfl
  | cons first others =>
    rw [List.map_cons, oldestBy, oldestBy, Option.map_some, List.foldl_map]
    refine congrArg some (List.foldl_hom f fun best x => ?_)
    split <;> rfl

/-- The first candidate that no other is lower than: all before it are higher, and none behind it is
lower. -/
def IsFirstOldest (version : α → Version) (xs : List α) (a : α) : Prop :=
  ∃ before after, xs = before ++ a :: after ∧ (∀ x ∈ before, version a < version x)
    ∧ ∀ x ∈ after, version a ≤ version x

namespace IsFirstOldest

variable {version : α → Version} {xs : List α} {a : α}

/-- It is one of the candidates. -/
theorem mem (h : IsFirstOldest version xs a) : a ∈ xs := by
  obtain ⟨before, after, rfl, -, -⟩ := h
  simp

/-- No candidate is lower. -/
theorem le (h : IsFirstOldest version xs a) {x : α} (member : x ∈ xs) :
    version a ≤ version x := by
  obtain ⟨before, after, rfl, higher, not_lower⟩ := h
  rcases List.mem_append.mp member with earlier | rest
  · exact Version.le_of_lt (higher x earlier)
  · rcases List.mem_cons.mp rest with rfl | later
    · exact Version.le_refl _
    · exact not_lower x later

/-- One more candidate takes the place if it is lower. -/
theorem step (h : IsFirstOldest version xs a) (x : α) :
    IsFirstOldest version (xs ++ [x]) (if version x < version a then x else a) := by
  by_cases lower : version x < version a
  · rw [if_pos lower]
    exact ⟨xs, [], rfl, fun y member => Version.lt_of_lt_of_le lower (h.le member), by simp⟩
  · rw [if_neg lower]
    obtain ⟨before, after, rfl, higher, not_lower⟩ := h
    refine ⟨before, after ++ [x], by simp, higher, ?_⟩
    intro y member
    rcases List.mem_append.mp member with earlier | last
    · exact not_lower y earlier
    · rw [List.mem_singleton.mp last]
      exact Version.le_of_not_lt lower

/-- The first oldest of what is read off candidates is read off the first oldest of them. -/
theorem map {version : β → Version} {f : α → β}
    (h : IsFirstOldest (fun x => version (f x)) xs a) : IsFirstOldest version (xs.map f) (f a) := by
  obtain ⟨before, after, rfl, higher, not_lower⟩ := h
  refine ⟨before.map f, after.map f, by rw [List.map_append, List.map_cons], ?_, ?_⟩
  · exact List.forall_mem_map.mpr higher
  · exact List.forall_mem_map.mpr not_lower

/-- The first oldest stays the same where the candidates have the same versions in another way. -/
theorem congr {version' : α → Version} (h : IsFirstOldest version xs a)
    (same : ∀ x ∈ xs, version x = version' x) : IsFirstOldest version' xs a := by
  have same_a := same a h.mem
  obtain ⟨before, after, rfl, higher, not_lower⟩ := h
  refine ⟨before, after, rfl, ?_, ?_⟩
  · intro x member
    rw [← same_a, ← same x (List.mem_append_left _ member)]
    exact higher x member
  · intro x member
    rw [← same_a, ← same x (List.mem_append_right _ (List.mem_cons_of_mem _ member))]
    exact not_lower x member

end IsFirstOldest

/-- **The choice is the first candidate that no other is lower than.** -/
theorem isFirstOldest_of_oldestBy {version : α → Version} {xs : List α} {a : α}
    (h : oldestBy version xs = some a) : IsFirstOldest version xs a := by
  cases xs with
  | nil => cases h
  | cons first others =>
    rw [oldestBy, Option.some_inj] at h
    subst h
    -- The induction is on the candidates looked at so far.
    induction others using List.reverseRecOn with
    | nil => exact ⟨[], [], rfl, by simp, by simp⟩
    | append_singleton others x ih =>
      rw [List.foldl_append, List.foldl_cons, List.foldl_nil, ← List.cons_append]
      exact ih.step x

/-- **The order of the candidates decides only between level ones.** -/
theorem isLevel_of_oldestBy_perm {version : α → Version} {xs ys : List α} (order : xs.Perm ys)
    {a b : α} (left : oldestBy version xs = some a) (right : oldestBy version ys = some b) :
    (version a).isLevel (version b) = true := by
  have first := isFirstOldest_of_oldestBy left
  have second := isFirstOldest_of_oldestBy right
  exact Version.isLevel_of_le_of_le (first.le (order.symm.subset second.mem))
    (second.le (order.subset first.mem))

end KernelCensus
