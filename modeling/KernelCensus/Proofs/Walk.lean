/-
# Walks

Where a walk leads is told by rules.  One step stays, goes up, enters an entry, or follows a link
that stands there and so puts the steps of its target before those that are left (`Step`); a walk is
step after step (`Leads`).  Walking finds what the rules tell, as long as no more links are followed
than allowed (`along_eq_ok_iff`).  The rules tell one place only (`Leads.unique`), and a walk is the
walk to a place on its way and then the walk on from there (`Leads.append`, `Leads.split`).
-/
import KernelCensus.Machine.Walk

namespace KernelCensus

variable {α : Type}

namespace Walk

/-! ## Rules -/

/-- A step that names an entry: neither of the two that every directory has, and not too long. -/
structure IsNamed (step : EntryName) : Prop where
  ne_dot : step ≠ dot
  ne_dotDot : step ≠ dotDot
  short : step.length ≤ maxName

/-- `Step root here step links next before`: one step leads from a location to the next, follows so
many links, and puts steps before those that are left. -/
inductive Step (root : Node α) (here : List EntryName) :
    EntryName → Nat → List EntryName → List EntryName → Prop
  | stay {entries : List (EntryName × Node α)} (inside : root.at? here = some (.dir entries)) :
    Step root here dot 0 here []
  | up {entries : List (EntryName × Node α)} (inside : root.at? here = some (.dir entries)) :
    Step root here dotDot 0 here.dropLast []
  | enter {entries : List (EntryName × Node α)} {step : EntryName} {node : Node α}
    (inside : root.at? here = some (.dir entries)) (named : IsNamed step)
    (found : entries.lookup step = some node) (no_link : ∀ target, node ≠ .link target) :
    Step root here step 0 (here ++ [step]) []
  | follow {entries : List (EntryName × Node α)} {step : EntryName} {target : List UInt8}
    (inside : root.at? here = some (.dir entries)) (named : IsNamed step)
    (found : entries.lookup step = some (.link target)) :
    Step root here step 1 (start here target) (steps target)

/-- `Leads root links here trail there`: steps lead from one location to another, and follow so many
links on the way. -/
inductive Leads (root : Node α) : Nat → List EntryName → List EntryName → List EntryName → Prop
  | arrive (here : List EntryName) : Leads root 0 here [] here
  | step {used links : Nat} {here next before rest there : List EntryName} {step : EntryName}
    (first : Step root here step used next before)
    (onward : Leads root links next (before ++ rest) there) :
    Leads root (used + links) here (step :: rest) there

variable {root : Node α} {links used used' : Nat} {here next next' before before' : List EntryName}
  {trail onward there there' : List EntryName} {step : EntryName}

/-! ## Walking by the rules -/

/-- Walking on from where a step leads. -/
theorem along_step (first : Step root here step used next before) (rest : List EntryName) :
    along root (used + links) here (step :: rest) = along root links next (before ++ rest) := by
  cases first with
  | stay inside =>
    rw [along, inside, Nat.zero_add]
    simp only [if_true, List.nil_append]
  | up inside =>
    have differ : dotDot ≠ dot := by decide
    rw [along, inside, Nat.zero_add]
    simp only [if_neg differ, if_true, List.nil_append]
  | enter inside named found no_link =>
    rw [along, inside, Nat.zero_add]
    simp only [if_neg named.ne_dot, if_neg named.ne_dotDot,
      if_neg (Nat.not_lt.mpr named.short), found, List.nil_append]
  | follow inside named found =>
    rw [along, inside, Nat.add_comm]
    simp only [if_neg named.ne_dot, if_neg named.ne_dotDot,
      if_neg (Nat.not_lt.mpr named.short), found]

/-- Walking on from where a step leads that follows no link. -/
theorem along_of_step_zero (first : Step root here step 0 next []) (rest : List EntryName) :
    along root links here (step :: rest) = along root links next rest := by
  rw [← Nat.zero_add links, along_step first, Nat.zero_add, List.nil_append]

/-- A step before a walk, with the links that both follow. -/
theorem Step.exists_leads {left : Nat} {rest : List EntryName}
    (first : Step root here step used next before) (within : used + left ≤ links)
    (onward : ∃ more ≤ left, Leads root more next (before ++ rest) there) :
    ∃ all ≤ links, Leads root all here (step :: rest) there := by
  obtain ⟨more, more_within, onward⟩ := onward
  exact ⟨used + more, by omega, .step first onward⟩

/-- What walking finds is told by the rules. -/
theorem leads_of_along (h : along root links here trail = .ok there) :
    ∃ used ≤ links, Leads root used here trail there := by
  -- The cases are those of `along`; all but five of them meet an obstacle.
  fun_induction along root links here trail with
  | case1 =>
    cases h
    exact ⟨0, Nat.zero_le _, .arrive _⟩
  | case2 links here rest entries inside ih =>
    exact (Step.stay inside).exists_leads (by omega) (ih h)
  | case3 links here rest entries inside _ ih =>
    exact (Step.up inside).exists_leads (by omega) (ih h)
  | case7 here step rest entries inside ne_dot ne_dotDot short target found left ih =>
    have named : IsNamed step := ⟨ne_dot, ne_dotDot, Nat.not_lt.mp short⟩
    exact (Step.follow inside named found).exists_leads (by omega) (ih h)
  | case8 links here step rest entries inside ne_dot ne_dotDot short node no_link found ih =>
    have named : IsNamed step := ⟨ne_dot, ne_dotDot, Nat.not_lt.mp short⟩
    exact (Step.enter inside named found no_link).exists_leads (by omega) (ih h)
  | _ => cases h

/-- What the rules tell is found, if enough links may be followed. -/
theorem along_of_leads (h : Leads root used here trail there) (within : used ≤ links) :
    along root links here trail = .ok there := by
  -- The induction is on the walk, whatever number of links may still be followed.
  induction h generalizing links with
  | arrive here => rw [along]
  | @step used more _ _ _ rest _ _ first _ ih =>
    obtain ⟨left, rfl⟩ : ∃ left, links = used + left := ⟨links - used, by omega⟩
    rw [along_step first, ih (by omega)]

/-- **Walking finds what the rules tell.** -/
theorem along_eq_ok_iff : along root links here trail = .ok there
    ↔ ∃ used ≤ links, Leads root used here trail there :=
  ⟨leads_of_along, fun ⟨_, within, h⟩ => along_of_leads h within⟩

/-! ## Walks in parts -/

/-- One rule applies to a step. -/
theorem Step.unique (h : Step root here step used next before)
    (h' : Step root here step used' next' before') :
    used = used' ∧ next = next' ∧ before = before' := by
  cases h with
  | stay =>
    cases h' with
    | stay => exact ⟨rfl, rfl, rfl⟩
    | enter _ named => exact absurd rfl named.ne_dot
    | follow _ named => exact absurd rfl named.ne_dot
  | up =>
    cases h' with
    | up => exact ⟨rfl, rfl, rfl⟩
    | enter _ named => exact absurd rfl named.ne_dotDot
    | follow _ named => exact absurd rfl named.ne_dotDot
  | enter inside named found no_link =>
    cases h' with
    | stay => exact absurd rfl named.ne_dot
    | up => exact absurd rfl named.ne_dotDot
    | enter => exact ⟨rfl, rfl, rfl⟩
    | follow inside' _ found' =>
      cases inside.symm.trans inside'
      cases found.symm.trans found'
      exact absurd rfl (no_link _)
  | follow inside named found =>
    cases h' with
    | stay => exact absurd rfl named.ne_dot
    | up => exact absurd rfl named.ne_dotDot
    | enter inside' _ found' no_link =>
      cases inside.symm.trans inside'
      cases found.symm.trans found'
      exact absurd rfl (no_link _)
    | follow inside' _ found' =>
      cases inside.symm.trans inside'
      cases found.symm.trans found'
      exact ⟨rfl, rfl, rfl⟩

/-- **The rules tell one place only**, and one number of links. -/
theorem Leads.unique (h : Leads root used here trail there)
    (h' : Leads root used' here trail there') : used = used' ∧ there = there' := by
  induction h generalizing used' with
  | arrive here =>
    cases h'
    exact ⟨rfl, rfl⟩
  | step first _ ih =>
    cases h' with
    | step first' onward' =>
      obtain ⟨rfl, rfl, rfl⟩ := first.unique first'
      obtain ⟨rfl, rfl⟩ := ih onward'
      exact ⟨rfl, rfl⟩

/-- A walk goes on from where it led. -/
theorem Leads.append (h : Leads root used here trail next)
    (h' : Leads root links next onward there) :
    Leads root (used + links) here (trail ++ onward) there := by
  induction h with
  | arrive here => rwa [Nat.zero_add]
  | step first _ ih =>
    rw [Nat.add_assoc, List.cons_append]
    refine .step first ?_
    rw [← List.append_assoc]
    exact ih h'

/-- A walk passes through where its first steps lead. -/
theorem Leads.split {whole : List EntryName} (h : Leads root used here whole there)
    (shape : whole = trail ++ onward) :
    ∃ first more next, used = first + more ∧ Leads root first here trail next
      ∧ Leads root more next onward there := by
  -- The induction is on the whole walk; the target of a link lengthens the part that is first.
  induction h generalizing trail with
  | arrive here =>
    obtain ⟨rfl, rfl⟩ := List.append_eq_nil_iff.mp shape.symm
    exact ⟨0, 0, here, rfl, .arrive here, .arrive here⟩
  | @step used more here _ _ _ _ _ first rest ih =>
    cases trail with
    | nil =>
      rw [List.nil_append] at shape
      subst shape
      exact ⟨0, used + more, here, (Nat.zero_add _).symm, .arrive here, .step first rest⟩
    | cons step trail =>
      cases shape
      obtain ⟨early, late, next, rfl, early_part, late_part⟩ := ih (List.append_assoc _ _ _).symm
      exact ⟨used + early, late, next, (Nat.add_assoc _ _ _).symm, .step first early_part,
        late_part⟩

end Walk

end KernelCensus
