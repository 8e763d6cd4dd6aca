/-
# Ranked versions

Ranking sorts versions and leaves level ones in their order.  No other list does so
(`eq_of_classes`), and hence a ranked list tells of every choice: the version that it starts with is
the first of the lowest, the one that it ends with the last of the highest, and what is kept of its
runs of level versions is one of each class, the first that was given (`ranked_tells`).
-/
import KernelCensus.Proofs.Oldest
import Mathlib.Data.List.Destutter

namespace KernelCensus

namespace Version

/-! ## Lower, level and higher -/

/-- At most something that is at most a third is at most the third. -/
theorem le_trans {u v w : Version} (first : u ≤ v) (second : v ≤ w) : u ≤ w :=
  Std.TransCmp.isLE_trans first second

/-- Of two versions one is at most the other. -/
theorem le_total (v w : Version) : v ≤ w ∨ w ≤ v := by
  by_cases lower : w < v
  · exact Or.inr (le_of_lt lower)
  · exact Or.inl (le_of_not_lt lower)

/-- What is lower is not at least. -/
theorem not_le_of_lt {v w : Version} (h : v < w) : ¬ w ≤ v :=
  fun at_most => not_lt_of_le at_most h

/-- Level versions are at most each other. -/
theorem le_of_isLevel {v w : Version} (level : v.isLevel w = true) : v ≤ w := by
  rw [le_iff, isLevel_iff.mp level]
  decide

/-- Every version is level with itself. -/
theorem isLevel_self (v : Version) : v.isLevel v = true :=
  isLevel_equivalence.refl v

/-- A lower version is not level. -/
theorem not_isLevel_of_lt {v w : Version} (lower : v < w) : v.isLevel w = false := by
  rw [Bool.eq_false_iff]
  intro level
  exact not_le_of_lt lower (le_of_isLevel (isLevel_equivalence.symm level))

/-- A higher version is not level. -/
theorem not_isLevel_of_gt {v w : Version} (higher : w < v) : v.isLevel w = false := by
  rw [Bool.eq_false_iff]
  intro level
  exact not_le_of_lt higher (le_of_isLevel level)

/-- What is at most another version without being level with it is lower. -/
theorem lt_of_le_of_not_isLevel {v w : Version} (h : v ≤ w) (apart : v.isLevel w = false) :
    v < w := by
  by_contra not_lower
  have level := isLevel_of_le_of_le h (le_of_not_lt not_lower)
  rw [apart] at level
  cases level

/-- Level versions are level with the same ones. -/
theorem isLevel_congr {v w : Version} (level : v.isLevel w = true) (u : Version) :
    u.isLevel v = u.isLevel w := by
  rw [isLevel, isLevel, compare_congr (isLevel_self u) level]

/-- Where all versions are lower or higher than one, its class is empty. -/
theorem filter_eq_nil_of_apart {vs : List Version} {v : Version}
    (apart : ∀ w ∈ vs, v.isLevel w = false) : vs.filter v.isLevel = [] :=
  List.filter_eq_nil_iff.mpr fun w member => Bool.eq_false_iff.mp (apart w member)

/-! ## Ascending lists -/

/-- An ascending list starts with the first of those that are lowest. -/
theorem head?_of_lowest {vs : List Version} (ascending : vs.Pairwise (· ≤ ·)) {v : Version}
    (among : v ∈ vs) (lowest : ∀ w ∈ vs, v ≤ w) : vs.head? = (vs.filter v.isLevel).head? := by
  obtain ⟨w, others, rfl⟩ := List.exists_cons_of_ne_nil (List.ne_nil_of_mem among)
  have w_le_v : w ≤ v := by
    rcases List.mem_cons.mp among with rfl | later
    · exact le_refl _
    · exact (List.pairwise_cons.mp ascending).1 v later
  have level : v.isLevel w = true := isLevel_of_le_of_le (lowest w List.mem_cons_self) w_le_v
  rw [List.filter_cons_of_pos level]
  rfl

/-- An ascending list ends with the last of those that are highest. -/
theorem getLast?_of_highest {vs : List Version} (ascending : vs.Pairwise (· ≤ ·)) {v : Version}
    (among : v ∈ vs) (highest : ∀ w ∈ vs, w ≤ v) :
    vs.getLast? = (vs.filter v.isLevel).getLast? := by
  cases vs using List.reverseRecOn with
  | nil => cases among
  | append_singleton others w =>
    have v_le_w : v ≤ w := by
      rcases List.mem_append.mp among with earlier | last
      · exact (List.pairwise_append.mp ascending).2.2 v earlier w List.mem_cons_self
      · rw [List.mem_singleton.mp last]
        exact le_refl _
    have level : v.isLevel w = true := isLevel_of_le_of_le v_le_w (highest w (by simp))
    have kept : [w].filter v.isLevel = [w] := List.filter_cons_of_pos level
    rw [List.filter_append, kept, List.getLast?_concat, List.getLast?_concat]

/-- Where neighbours of an ascending list are never level, the list ascends strictly. -/
theorem pairwise_lt_of_isChain {vs : List Version} (ascending : vs.Pairwise (· ≤ ·))
    (apart : vs.IsChain fun v w => ¬ v.isLevel w = true) : vs.Pairwise (· < ·) := by
  induction vs with
  | nil => exact List.Pairwise.nil
  | cons v vs ih =>
    obtain ⟨v_le, others⟩ := List.pairwise_cons.mp ascending
    cases vs with
    | nil => exact List.pairwise_singleton _ _
    | cons w vs =>
      obtain ⟨next_apart, others_apart⟩ := List.isChain_cons_cons.mp apart
      have lower : v < w := lt_of_le_of_not_isLevel (v_le w List.mem_cons_self)
        (Bool.eq_false_iff.mpr next_apart)
      refine List.pairwise_cons.mpr ⟨?_, ih others others_apart⟩
      intro u member
      rcases List.mem_cons.mp member with rfl | later
      · exact lower
      · exact lt_of_lt_of_le lower ((List.pairwise_cons.mp others).1 u later)

/-- A strictly ascending list has at most one version of each class. -/
theorem filter_of_pairwise_lt {vs : List Version} (ascending : vs.Pairwise (· < ·)) (v : Version) :
    vs.filter v.isLevel = (vs.find? v.isLevel).toList := by
  induction vs with
  | nil => rfl
  | cons w vs ih =>
    obtain ⟨lower, others⟩ := List.pairwise_cons.mp ascending
    cases level : v.isLevel w with
    | false =>
      have apart : ¬ v.isLevel w = true := Bool.eq_false_iff.mp level
      rw [List.filter_cons_of_neg apart, List.find?_cons_of_neg apart, ih others]
    | true =>
      have none_other : vs.filter v.isLevel = [] := by
        refine filter_eq_nil_of_apart fun u member => ?_
        exact not_isLevel_of_lt (lt_of_le_of_lt (le_of_isLevel level) (lower u member))
      rw [List.filter_cons_of_pos level, List.find?_cons_of_pos level, none_other]
      rfl

/-- Lists with the same classes have the same versions. -/
theorem mem_iff_of_classes {xs ys : List Version}
    (same : ∀ v : Version, xs.filter v.isLevel = ys.filter v.isLevel) (v : Version) :
    v ∈ xs ↔ v ∈ ys := by
  have members : v ∈ xs.filter v.isLevel ↔ v ∈ ys.filter v.isLevel := by rw [same]
  simpa [List.mem_filter, isLevel_self] using members

/-- **Classes determine an ascending list**: the versions of each class, in their order, tell which
list it is. -/
theorem eq_of_classes {xs ys : List Version} (left : xs.Pairwise (· ≤ ·))
    (right : ys.Pairwise (· ≤ ·))
    (same : ∀ v : Version, xs.filter v.isLevel = ys.filter v.isLevel) : xs = ys := by
  induction xs generalizing ys with
  | nil =>
    rw [eq_comm, List.eq_nil_iff_forall_not_mem]
    exact fun v member => List.not_mem_nil ((mem_iff_of_classes same v).mpr member)
  | cons x xs ih =>
    have x_among := (mem_iff_of_classes same x).mp List.mem_cons_self
    obtain ⟨y, others, rfl⟩ := List.exists_cons_of_ne_nil (List.ne_nil_of_mem x_among)
    have y_among := (mem_iff_of_classes same y).mpr List.mem_cons_self
    rw [List.pairwise_cons] at left right
    -- Each of the two first versions is at most the other, as both lists hold both.
    have x_le_y : x ≤ y := by
      rcases List.mem_cons.mp y_among with rfl | later
      · exact le_refl _
      · exact left.1 y later
    have y_le_x : y ≤ x := by
      rcases List.mem_cons.mp x_among with rfl | later
      · exact le_refl _
      · exact right.1 x later
    have level := isLevel_of_le_of_le x_le_y y_le_x
    obtain rfl : x = y := by
      have first := congrArg List.head? (same x)
      rw [List.filter_cons_of_pos (isLevel_self x), List.filter_cons_of_pos level] at first
      exact Option.some_inj.mp first
    rw [ih left.2 right.2 fun v => ?_]
    have whole := same v
    rw [List.filter_cons, List.filter_cons] at whole
    split at whole
    · exact (List.cons.inj whole).2
    · exact whole

/-! ## Ranking -/

/-- The comparison that ranks is transitive. -/
theorem decide_le_trans (u v w : Version) (first : decide (u ≤ v) = true)
    (second : decide (v ≤ w) = true) : decide (u ≤ w) = true :=
  decide_eq_true (le_trans (of_decide_eq_true first) (of_decide_eq_true second))

/-- The comparison that ranks is total. -/
theorem decide_le_total (v w : Version) : (decide (v ≤ w) || decide (w ≤ v)) = true := by
  rw [Bool.or_eq_true, decide_eq_true_iff, decide_eq_true_iff]
  exact le_total v w

section Ranking

variable (vs : List Version)

/-- Ranking neither adds nor loses versions. -/
theorem ranked_perm : (ranked vs).Perm vs :=
  List.mergeSort_perm vs _

/-- Without versions there is nothing to rank. -/
theorem ranked_nil : ranked [] = [] :=
  List.mergeSort_nil

/-- Ranked versions ascend. -/
theorem pairwise_ranked : (ranked vs).Pairwise (· ≤ ·) :=
  (List.pairwise_mergeSort decide_le_trans decide_le_total vs).imp of_decide_eq_true

/-- **Level versions keep their order.** -/
theorem filter_ranked (v : Version) : (ranked vs).filter v.isLevel = vs.filter v.isLevel := by
  -- A class ascends as it stands, and so it is left as it is.
  have ascending : (vs.filter v.isLevel).Pairwise fun u w => decide (u ≤ w) = true := by
    refine List.pairwise_of_forall_mem_list fun u member w member' => ?_
    have left := isLevel_equivalence.symm (List.mem_filter.mp member).2
    have right := (List.mem_filter.mp member').2
    exact decide_eq_true (le_of_isLevel (isLevel_equivalence.trans left right))
  have found : (vs.filter v.isLevel).Sublist (ranked vs) :=
    List.sublist_mergeSort decide_le_trans decide_le_total ascending List.filter_sublist
  have found_in_class := found.filter v.isLevel
  rw [List.filter_filter] at found_in_class
  simp only [Bool.and_self] at found_in_class
  have as_many := ((ranked_perm vs).filter v.isLevel).length_eq
  exact (found_in_class.eq_of_length as_many.symm).symm

/-- **Ranked is what ascends and has the same classes.** -/
theorem eq_ranked_iff {ws : List Version} : ws = ranked vs
    ↔ ws.Pairwise (· ≤ ·) ∧ ∀ v : Version, ws.filter v.isLevel = vs.filter v.isLevel := by
  constructor
  · rintro rfl
    exact ⟨pairwise_ranked vs, filter_ranked vs⟩
  · rintro ⟨ascending, same⟩
    refine eq_of_classes ascending (pairwise_ranked vs) fun v => ?_
    rw [same, filter_ranked]

end Ranking

/-! ## The ends of a ranked list -/

/-- The first oldest version is the first of its class. -/
theorem head?_class {vs : List Version} {v : Version} (h : IsFirstOldest id vs v) :
    (vs.filter v.isLevel).head? = some v := by
  obtain ⟨before, after, rfl, higher, -⟩ := h
  have passed : before.filter v.isLevel = [] :=
    filter_eq_nil_of_apart fun w member => not_isLevel_of_lt (higher w member)
  rw [List.filter_append, passed, List.nil_append, List.filter_cons_of_pos (isLevel_self v)]
  rfl

/-- The last of the highest versions: none before it is higher, and all behind it are lower. -/
def IsLastHighest (vs : List Version) (v : Version) : Prop :=
  ∃ before after, vs = before ++ v :: after ∧ (∀ w ∈ before, w ≤ v) ∧ ∀ w ∈ after, w < v

namespace IsLastHighest

variable {vs : List Version} {v : Version}

/-- It is one of the versions. -/
theorem mem (h : IsLastHighest vs v) : v ∈ vs := by
  obtain ⟨before, after, rfl, -, -⟩ := h
  simp

/-- No version is higher. -/
theorem le (h : IsLastHighest vs v) {w : Version} (member : w ∈ vs) : w ≤ v := by
  obtain ⟨before, after, rfl, not_higher, lower⟩ := h
  rcases List.mem_append.mp member with earlier | rest
  · exact not_higher w earlier
  · rcases List.mem_cons.mp rest with rfl | later
    · exact le_refl _
    · exact le_of_lt (lower w later)

/-- One more version takes the place unless it is lower. -/
theorem step (h : IsLastHighest vs v) (w : Version) : IsLastHighest (vs ++ [w]) (max v w) := by
  by_cases at_least : v ≤ w
  · rw [(min_max_of_le at_least).2]
    exact ⟨vs, [], rfl, fun u member => le_trans (h.le member) at_least, by simp⟩
  · rw [(min_max_of_not_le at_least).2]
    have lower : w < v := by
      by_contra not_lower
      exact at_least (le_of_not_lt not_lower)
    obtain ⟨before, after, rfl, not_higher, all_lower⟩ := h
    refine ⟨before, after ++ [w], by simp, not_higher, ?_⟩
    intro u member
    rcases List.mem_append.mp member with earlier | last
    · exact all_lower u earlier
    · rw [List.mem_singleton.mp last]
      exact lower

/-- It is the last of its class. -/
theorem getLast?_class (h : IsLastHighest vs v) : (vs.filter v.isLevel).getLast? = some v := by
  obtain ⟨before, after, rfl, -, lower⟩ := h
  have none_behind : after.filter v.isLevel = [] :=
    filter_eq_nil_of_apart fun w member => not_isLevel_of_gt (lower w member)
  rw [List.filter_append, List.filter_cons_of_pos (isLevel_self v), none_behind,
    List.getLast?_append]
  rfl

end IsLastHighest

/-- **The highest version is the last of the highest.** -/
theorem isLastHighest_of_highest {vs : List Version} {v : Version} (h : highest vs = some v) :
    IsLastHighest vs v := by
  cases vs with
  | nil => cases h
  | cons first others =>
    rw [highest, Option.some_inj] at h
    subst h
    -- The induction is on the versions looked at so far.
    induction others using List.reverseRecOn with
    | nil => exact ⟨[], [], rfl, by simp, by simp⟩
    | append_singleton others w ih =>
      rw [List.foldl_append, List.foldl_cons, List.foldl_nil, ← List.cons_append]
      exact ih.step w

/-- No version is the highest exactly where there is none. -/
theorem highest_eq_none_iff {vs : List Version} : highest vs = none ↔ vs = [] := by
  cases vs with
  | nil => exact ⟨fun _ => rfl, fun _ => rfl⟩
  | cons v vs => exact ⟨fun h => (by cases h), fun h => (by cases h)⟩

/-- The scan for the oldest version yields the minimum. -/
theorem oldestBy_id_eq_min? (vs : List Version) : oldestBy id vs = vs.min? := by
  have same_step : (fun best v : Version => if v < best then v else best) = min := by
    funext best v
    by_cases lower : v < best
    · rw [if_pos lower, (min_max_of_not_le (not_le_of_lt lower)).1]
    · rw [if_neg lower, (min_max_of_le (le_of_not_lt lower)).1]
  cases vs with
  | nil => rfl
  | cons first others =>
    rw [oldestBy, List.min?]
    simp only [id, same_step]

/-- The highest version is the maximum. -/
theorem highest_eq_max? (vs : List Version) : highest vs = vs.max? := by
  cases vs <;> rfl

/-- The first oldest version is where a ranked list starts. -/
theorem head?_ranked_of_isFirstOldest {vs : List Version} {v : Version}
    (oldest : IsFirstOldest id vs v) : (ranked vs).head? = some v := by
  have same_members : ∀ w, w ∈ ranked vs ↔ w ∈ vs := fun w => (ranked_perm vs).mem_iff
  rw [head?_of_lowest (pairwise_ranked vs) ((same_members v).mpr oldest.mem)
    (fun w member => oldest.le ((same_members w).mp member)), filter_ranked, head?_class oldest]

/-- The last of the highest versions is where a ranked list ends. -/
theorem getLast?_ranked_of_isLastHighest {vs : List Version} {v : Version}
    (last : IsLastHighest vs v) : (ranked vs).getLast? = some v := by
  have same_members : ∀ w, w ∈ ranked vs ↔ w ∈ vs := fun w => (ranked_perm vs).mem_iff
  rw [getLast?_of_highest (pairwise_ranked vs) ((same_members v).mpr last.mem)
    (fun w member => last.le ((same_members w).mp member)), filter_ranked, last.getLast?_class]

/-- **A ranked list starts with the choice of the oldest version.** -/
theorem head?_ranked (vs : List Version) : (ranked vs).head? = oldestBy id vs := by
  cases choice : oldestBy id vs with
  | none =>
    rw [oldestBy_eq_none_iff.mp choice, ranked_nil]
    rfl
  | some v => exact head?_ranked_of_isFirstOldest (isFirstOldest_of_oldestBy choice)

/-- **A ranked list ends with the choice of the highest version.** -/
theorem getLast?_ranked (vs : List Version) : (ranked vs).getLast? = highest vs := by
  cases choice : highest vs with
  | none =>
    rw [highest_eq_none_iff.mp choice, ranked_nil]
    rfl
  | some v => exact getLast?_ranked_of_isLastHighest (isLastHighest_of_highest choice)

/-! ## Runs of level versions -/

/-- Behind what was kept last, all that is level with it is dropped. -/
theorem distinctAfter_eq_destutter' (kept : Version) (vs : List Version) :
    kept :: distinctAfter kept vs = vs.destutter' (fun v w => ¬ v.isLevel w = true) kept := by
  induction vs generalizing kept with
  | nil => rfl
  | cons v vs ih =>
    rw [distinctAfter, List.destutter'_cons]
    cases level : kept.isLevel v with
    | false => simp [ih]
    | true => simp [ih]

/-- Keeping the first of each run is dropping what is level with what was kept last. -/
theorem distinct_eq_destutter (vs : List Version) :
    distinct vs = vs.destutter fun v w => ¬ v.isLevel w = true := by
  cases vs with
  | nil => rfl
  | cons v vs => exact distinctAfter_eq_destutter' v vs

/-- What is dropped of a class stands behind a version of this class. -/
theorem find?_distinctAfter (kept : Version) (vs : List Version) (v : Version) :
    (kept :: distinctAfter kept vs).find? v.isLevel = (kept :: vs).find? v.isLevel := by
  induction vs generalizing kept with
  | nil => rfl
  | cons w vs ih =>
    rw [distinctAfter]
    split
    · next level =>
      rw [ih, List.find?_cons, List.find?_cons, List.find?_cons, isLevel_congr level v]
      cases v.isLevel w <;> rfl
    · rw [List.find?_cons, ih, ← List.find?_cons]

/-- Of each class the first version is kept. -/
theorem find?_distinct (vs : List Version) (v : Version) :
    (distinct vs).find? v.isLevel = vs.find? v.isLevel := by
  cases vs with
  | nil => rfl
  | cons w vs => exact find?_distinctAfter w vs v

/-- **What is kept of the runs of a ranked list ascends strictly.** -/
theorem pairwise_distinct_ranked (vs : List Version) :
    (distinct (ranked vs)).Pairwise (· < ·) := by
  rw [distinct_eq_destutter]
  have kept := List.destutter_sublist (fun v w : Version => ¬ v.isLevel w = true) (ranked vs)
  exact pairwise_lt_of_isChain ((pairwise_ranked vs).sublist kept) (List.isChain_destutter _ _)

/-- **What is kept of each class is its first version**, as the versions were given. -/
theorem filter_distinct_ranked (vs : List Version) (v : Version) :
    (distinct (ranked vs)).filter v.isLevel = (vs.find? v.isLevel).toList := by
  rw [filter_of_pairwise_lt (pairwise_distinct_ranked vs), find?_distinct, ← List.head?_filter,
    filter_ranked, List.head?_filter]

/-- Of level versions the first written form is kept. -/
example : distinct (ranked [⟨[6, 8, 0]⟩, ⟨[5, 15]⟩, ⟨[6, 8]⟩]) = [⟨[5, 15]⟩, ⟨[6, 8, 0]⟩] := by
  cbv

/-- **What a ranked list tells.**  It holds the given versions in ascending order, level ones as
they were given, and is the only list that does.  It starts with the first of the lowest, which is
the minimum and the choice of the oldest version, and it ends with the last of the highest, which is
the maximum.  Keeping the first of each run of level neighbours leaves a strictly ascending list,
which has of each class one version, the first that was given. -/
theorem ranked_tells (vs : List Version) :
    (ranked vs).Perm vs ∧ (ranked vs).Pairwise (· ≤ ·)
    ∧ (∀ v : Version, (ranked vs).filter v.isLevel = vs.filter v.isLevel)
    ∧ (∀ ws : List Version, ws = ranked vs ↔ ws.Pairwise (· ≤ ·)
      ∧ ∀ v : Version, ws.filter v.isLevel = vs.filter v.isLevel)
    ∧ (ranked vs).head? = oldestBy id vs ∧ (ranked vs).head? = lowest vs
    ∧ (ranked vs).head? = vs.min?
    ∧ (∀ v, (ranked vs).head? = some v ↔ IsFirstOldest id vs v)
    ∧ (ranked vs).getLast? = highest vs ∧ (ranked vs).getLast? = vs.max?
    ∧ (∀ v, (ranked vs).getLast? = some v ↔ IsLastHighest vs v)
    ∧ distinct (ranked vs) = (ranked vs).destutter (fun v w => ¬ v.isLevel w = true)
    ∧ (distinct (ranked vs)).Pairwise (· < ·)
    ∧ (∀ v : Version, (distinct (ranked vs)).filter v.isLevel = (vs.find? v.isLevel).toList)
    ∧ ∀ v ∈ vs, ∃ first, vs.find? v.isLevel = some first
      ∧ (distinct (ranked vs)).filter v.isLevel = [first] := by
  refine ⟨ranked_perm vs, pairwise_ranked vs, filter_ranked vs, fun ws => eq_ranked_iff vs,
    head?_ranked vs, head?_ranked vs, ?_, ?_, getLast?_ranked vs, ?_, ?_,
    distinct_eq_destutter (ranked vs), pairwise_distinct_ranked vs, filter_distinct_ranked vs, ?_⟩
  · rw [head?_ranked, oldestBy_id_eq_min?]
  · intro v
    refine ⟨fun first => ?_, head?_ranked_of_isFirstOldest⟩
    rw [head?_ranked] at first
    exact isFirstOldest_of_oldestBy first
  · rw [getLast?_ranked, highest_eq_max?]
  · intro v
    refine ⟨fun final => ?_, getLast?_ranked_of_isLastHighest⟩
    rw [getLast?_ranked] at final
    exact isLastHighest_of_highest final
  · intro v member
    obtain ⟨first, found⟩ : ∃ first, vs.find? v.isLevel = some first := by
      rw [← Option.isSome_iff_exists, List.find?_isSome]
      exact ⟨v, member, isLevel_self v⟩
    refine ⟨first, found, ?_⟩
    rw [filter_distinct_ranked, found]
    rfl

end Version

end KernelCensus
