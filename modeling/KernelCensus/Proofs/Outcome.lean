/-
# Outcomes

Taking apart outcomes that were put together from others: where a restated or continued outcome is
a success, so is what it was made from, and a list that is read succeeds element by element or fails
with its first element that does.  Two outcomes may end alike (`EndsAlike`) though their values
differ, as those of two lists in different orders do (`mapM_perm`).
-/
import Mathlib.Data.List.Perm.Basic

namespace KernelCensus

namespace Outcome

variable {ε δ ε' δ' α β γ α' β' : Type}

/-- Restating an error neither makes nor changes a success. -/
theorem mapError_eq_ok_iff {restate : ε → δ} {x : Except ε α} {a : α} :
    x.mapError restate = .ok a ↔ x = .ok a := by
  cases x with
  | error e => exact ⟨fun h => (by cases h), fun h => (by cases h)⟩
  | ok b => simp [Except.mapError]

/-- Restating an error restates the error of a failure. -/
theorem mapError_eq_error_iff {restate : ε → δ} {x : Except ε α} {d : δ} :
    x.mapError restate = .error d ↔ ∃ e, x = .error e ∧ restate e = d := by
  cases x with
  | error e => simp [Except.mapError]
  | ok a => exact ⟨fun h => (by cases h), fun ⟨e, h, _⟩ => (by cases h)⟩

/-- An error restated twice is restated once. -/
theorem mapError_mapError {restate : ε → δ} {again : δ → γ} (x : Except ε α) :
    (x.mapError restate).mapError again = x.mapError fun e => again (restate e) := by
  cases x <;> rfl

/-- A function of the value of a success neither makes nor changes an error. -/
theorem map_eq_error_iff {f : α → β} {x : Except ε α} {e : ε} :
    x.map f = .error e ↔ x = .error e := by
  cases x with
  | error d => simp [Except.map]
  | ok a => exact ⟨fun h => (by cases h), fun h => (by cases h)⟩

/-- A function of the value of a success makes a success of it. -/
theorem map_eq_ok_iff {f : α → β} {x : Except ε α} {b : β} :
    x.map f = .ok b ↔ ∃ a, x = .ok a ∧ f a = b := by
  cases x with
  | error d => exact ⟨fun h => (by cases h), fun ⟨a, h, _⟩ => (by cases h)⟩
  | ok a => simp [Except.map]

/-- A success goes on with its value. -/
theorem ok_bind (a : α) (next : α → Except ε β) : Except.ok a >>= next = next a := rfl

/-- A failure goes on with nothing. -/
theorem error_bind (e : ε) (next : α → Except ε β) : Except.error e >>= next = .error e := rfl

/-- Going on succeeds where both parts do. -/
theorem bind_eq_ok_iff {x : Except ε α} {next : α → Except ε β} {b : β} :
    x >>= next = .ok b ↔ ∃ a, x = .ok a ∧ next a = .ok b := by
  cases x with
  | error e => exact ⟨fun h => (by cases h), fun ⟨a, h, _⟩ => (by cases h)⟩
  | ok a =>
    constructor
    · intro h
      exact ⟨a, rfl, h⟩
    · rintro ⟨c, same, h⟩
      cases same
      exact h

/-- Going on fails where one of the parts does, the first of them first. -/
theorem bind_eq_error_iff {x : Except ε α} {next : α → Except ε β} {e : ε} :
    x >>= next = .error e ↔ x = .error e ∨ ∃ a, x = .ok a ∧ next a = .error e := by
  cases x with
  | error d =>
    rw [error_bind]
    simp
  | ok a =>
    rw [ok_bind]
    simp

/-- **Reading a list succeeds where each of its elements is read, in order.** -/
theorem mapM_eq_ok_iff {read : α → Except ε β} {as : List α} {bs : List β} :
    as.mapM read = .ok bs ↔ List.Forall₂ (fun a b => read a = .ok b) as bs := by
  induction as generalizing bs with
  | nil =>
    rw [List.mapM_nil, List.forall₂_nil_left_iff]
    constructor
    · intro h
      exact (Except.ok.inj h).symm
    · rintro rfl
      rfl
  | cons a as ih =>
    rw [List.mapM_cons, bind_eq_ok_iff]
    constructor
    · rintro ⟨b, first, rest⟩
      obtain ⟨others, read_others, same⟩ := bind_eq_ok_iff.mp rest
      cases same
      exact .cons first (ih.mp read_others)
    · intro each
      cases each with
      | cons first others => exact ⟨_, first, bind_eq_ok_iff.mpr ⟨_, ih.mpr others, rfl⟩⟩

/-- What was read was read from an element. -/
theorem exists_of_mem_mapM {read : α → Except ε β} {as : List α} {bs : List β}
    (h : as.mapM read = .ok bs) {b : β} (member : b ∈ bs) : ∃ a ∈ as, read a = .ok b := by
  have each := mapM_eq_ok_iff.mp h
  clear h
  induction each with
  | nil => cases member
  | cons first _ ih =>
    rcases List.mem_cons.mp member with rfl | later
    · exact ⟨_, List.mem_cons_self, first⟩
    · obtain ⟨a, among, same⟩ := ih later
      exact ⟨a, List.mem_cons_of_mem _ among, same⟩

/-- Putting a function behind what reads each element is putting it behind what was read. -/
theorem map_mapM {read : α → Except ε β} (f : β → γ) (as : List α) :
    (as.mapM read).map (List.map f) = as.mapM fun a => (read a).map f := by
  induction as with
  | nil => rfl
  | cons a as ih =>
    rw [List.mapM_cons, List.mapM_cons, ← ih]
    cases read a with
    | error e => rfl
    | ok b => cases as.mapM read <;> rfl

/-- A list of which every element can be read can be read. -/
theorem exists_mapM_eq_ok_iff {read : α → Except ε β} {as : List α} :
    (∃ bs, as.mapM read = .ok bs) ↔ ∀ a ∈ as, ∃ b, read a = .ok b := by
  induction as with
  | nil => exact ⟨fun _ a member => (List.not_mem_nil member).elim, fun _ => ⟨[], rfl⟩⟩
  | cons a as ih =>
    rw [List.forall_mem_cons, ← ih]
    constructor
    · rintro ⟨bs, h⟩
      cases mapM_eq_ok_iff.mp h with
      | cons first others => exact ⟨⟨_, first⟩, ⟨_, mapM_eq_ok_iff.mpr others⟩⟩
    · rintro ⟨⟨b, first⟩, ⟨bs, others⟩⟩
      exact ⟨b :: bs, mapM_eq_ok_iff.mpr (.cons first (mapM_eq_ok_iff.mp others))⟩

/-- **Reading a list fails with its first element that cannot be read.** -/
theorem mapM_eq_error_iff {read : α → Except ε β} {as : List α} {e : ε} :
    as.mapM read = .error e ↔ ∃ before a after, as = before ++ a :: after
      ∧ (∀ b ∈ before, ∃ c, read b = .ok c) ∧ read a = .error e := by
  induction as with
  | nil =>
    constructor
    · intro h
      cases h
    · rintro ⟨before, a, after, shape, -⟩
      exact absurd shape.symm (by simp)
  | cons a as ih =>
    rw [List.mapM_cons]
    cases first : read a with
    | error d =>
      constructor
      · intro h
        cases h
        exact ⟨[], a, as, rfl, by simp, first⟩
      · rintro ⟨before, b, after, shape, fine, failed⟩
        cases before with
        | nil =>
          cases shape
          cases first.symm.trans failed
          rfl
        | cons c before =>
          cases shape
          obtain ⟨c, read_a⟩ := fine a List.mem_cons_self
          cases first.symm.trans read_a
    | ok b =>
      have later : (do let bs ← as.mapM read; pure (b :: bs)) = Except.error e
          ↔ as.mapM read = .error e := by
        cases as.mapM read with
        | error d => exact ⟨fun h => (by cases h; rfl), fun h => (by cases h; rfl)⟩
        | ok bs => exact ⟨fun h => (by cases h), fun h => (by cases h)⟩
      refine later.trans (ih.trans ?_)
      constructor
      · rintro ⟨before, c, after, rfl, fine, failed⟩
        exact ⟨a :: before, c, after, rfl, List.forall_mem_cons.mpr ⟨⟨b, first⟩, fine⟩, failed⟩
      · rintro ⟨before, c, after, shape, fine, failed⟩
        cases before with
        | nil =>
          cases shape
          cases first.symm.trans failed
        | cons d before =>
          cases shape
          exact ⟨before, c, after, rfl, (List.forall_mem_cons.mp fine).2, failed⟩

/-! ## Ending alike -/

/-- Two outcomes that end alike: successes with related values, or failures with related errors. -/
inductive EndsAlike (values : α → β → Prop) (errors : ε → δ → Prop) :
    Except ε α → Except δ β → Prop
  | ok {a : α} {b : β} (h : values a b) : EndsAlike values errors (.ok a) (.ok b)
  | error {e : ε} {d : δ} (h : errors e d) : EndsAlike values errors (.error e) (.error d)

section EndsAlike

variable {values : α → β → Prop} {errors : ε → δ → Prop} {x : Except ε α} {y : Except δ β}

/-- Outcomes that end alike go on alike if all that they may go on with does. -/
theorem EndsAlike.bind {values' : α' → β' → Prop} (h : EndsAlike values errors x y)
    {next : α → Except ε α'} {next' : β → Except δ β'}
    (alike : ∀ a b, values a b → EndsAlike values' errors (next a) (next' b)) :
    EndsAlike values' errors (x >>= next) (y >>= next') := by
  cases h with
  | ok related => exact alike _ _ related
  | error related => exact .error related

/-- Outcomes that end alike have values that are alike under functions that respect it. -/
theorem EndsAlike.map {values' : α' → β' → Prop} (h : EndsAlike values errors x y)
    {f : α → α'} {g : β → β'} (alike : ∀ a b, values a b → values' (f a) (g b)) :
    EndsAlike values' errors (x.map f) (y.map g) := by
  cases h with
  | ok related => exact .ok (alike _ _ related)
  | error related => exact .error related

/-- Outcomes that end alike have errors that are alike under restatements that respect it. -/
theorem EndsAlike.mapError {errors' : ε' → δ' → Prop} (h : EndsAlike values errors x y)
    {f : ε → ε'} {g : δ → δ'} (alike : ∀ e d, errors e d → errors' (f e) (g d)) :
    EndsAlike values errors' (x.mapError f) (y.mapError g) := by
  cases h with
  | ok related => exact .ok related
  | error related => exact .error (alike _ _ related)

end EndsAlike

/-- A list in another order is read with the same results in another order. -/
theorem exists_mapM_of_perm {read : α → Except ε β} {as as' : List α} {bs' : List β}
    (order : as.Perm as') (h : as'.mapM read = .ok bs') :
    ∃ bs, as.mapM read = .ok bs ∧ bs.Perm bs' := by
  obtain ⟨bs, each, same⟩ := List.perm_comp_forall₂ order (mapM_eq_ok_iff.mp h)
  exact ⟨bs, mapM_eq_ok_iff.mpr each, same⟩

/-- **Reading a list in another order ends alike**, if all errors of its elements are. -/
theorem mapM_perm {read : α → Except ε β} {errors : ε → ε → Prop}
    (alike : ∀ a e a' e', read a = .error e → read a' = .error e' → errors e e')
    {as as' : List α} (order : as.Perm as') :
    EndsAlike List.Perm errors (as.mapM read) (as'.mapM read) := by
  cases right : as'.mapM read with
  | ok bs' =>
    obtain ⟨bs, left, same⟩ := exists_mapM_of_perm order right
    rw [left]
    exact .ok same
  | error e' =>
    cases left : as.mapM read with
    | ok bs =>
      obtain ⟨bs', right', -⟩ := exists_mapM_of_perm order.symm left
      cases right.symm.trans right'
    | error e =>
      obtain ⟨-, a, -, -, -, failed⟩ := mapM_eq_error_iff.mp left
      obtain ⟨-, a', -, -, -, failed'⟩ := mapM_eq_error_iff.mp right
      exact .error (alike a e a' e' failed failed')

end Outcome

end KernelCensus
