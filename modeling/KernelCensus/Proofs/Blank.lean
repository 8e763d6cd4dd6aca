/-
# Trimming

Every text falls into blanks, a core with a blank at neither end, and blanks again, and it does so
with one core only.  Trimming yields this core (`trim_eq_iff`), so that blanks around a text never
change what it is trimmed to, and trimming it again changes nothing.
-/
import KernelCensus.Text.Blank
import Mathlib.Data.List.DropRight

namespace KernelCensus

/-! ## Blanks at the ends -/

/-- Characters of which neither the first nor the last is blank. -/
structure IsTrimmed (cs : List Char) : Prop where
  head : ∀ c ∈ cs.head?, isBlank c = false
  last : ∀ c ∈ cs.getLast?, isBlank c = false

/-- Trimming the end drops the blanks there. -/
theorem trimEnd_eq_rdropWhile (cs : List Char) : trimEnd cs = cs.rdropWhile isBlank := by
  induction cs with
  | nil => rfl
  | cons c cs ih =>
    rw [trimEnd, ih, List.rdropWhile, List.rdropWhile, List.reverse_cons, List.dropWhile_append]
    cases kept : cs.reverse.dropWhile isBlank with
    | nil => by_cases blank : isBlank c = true <;> simp [blank]
    | cons d ds =>
      obtain ⟨e, es, shape⟩ : ∃ e es, (d :: ds).reverse = e :: es :=
        List.exists_cons_of_ne_nil (by simp)
      simp only [List.isEmpty_cons, Bool.false_eq_true, if_false, List.reverse_append, shape]
      rfl

/-- Blanks in front are dropped, whatever stands behind them. -/
theorem dropWhile_append_of_blank {before : List Char} (h : ∀ c ∈ before, isBlank c = true)
    (cs : List Char) : (before ++ cs).dropWhile isBlank = cs.dropWhile isBlank := by
  rw [List.dropWhile_append, List.dropWhile_eq_nil_iff.mpr h]
  rfl

/-- Blanks at the end are dropped, whatever stands before them. -/
theorem rdropWhile_append_of_blank {after : List Char} (h : ∀ c ∈ after, isBlank c = true)
    (cs : List Char) : (cs ++ after).rdropWhile isBlank = cs.rdropWhile isBlank := by
  have reversed : ∀ c ∈ after.reverse, isBlank c = true := fun c member =>
    h c (List.mem_reverse.mp member)
  rw [List.rdropWhile, List.reverse_append, dropWhile_append_of_blank reversed]
  rfl

/-- Trimmed characters lose nothing at their front. -/
theorem IsTrimmed.dropWhile_append {core : List Char} (h : IsTrimmed core) (filled : core ≠ [])
    (after : List Char) : (core ++ after).dropWhile isBlank = core ++ after := by
  obtain ⟨c, cs, rfl⟩ := List.exists_cons_of_ne_nil filled
  have inked : isBlank c = false := h.head c rfl
  rw [List.cons_append, List.dropWhile_cons_of_neg (by simp [inked])]

/-- Trimmed characters lose nothing at their end. -/
theorem IsTrimmed.rdropWhile_eq {core : List Char} (h : IsTrimmed core) :
    core.rdropWhile isBlank = core := by
  rw [List.rdropWhile_eq_self_iff]
  intro filled
  have inked := h.last _ (List.getLast?_eq_some_getLast filled)
  simp [inked]

/-! ## Trimming -/

/-- The characters that trimming keeps. -/
theorem toList_trim (text : String) :
    (trim text).toList = (text.toList.dropWhile isBlank).rdropWhile isBlank := by
  rw [trim, String.toList_ofList, trimEnd_eq_rdropWhile]

/-- What is trimmed has a blank at neither end. -/
theorem isTrimmed_trim (text : String) : IsTrimmed (trim text).toList := by
  rw [toList_trim]
  constructor
  · intro c first
    -- What is kept is at the front of what stands behind the first blanks.
    obtain ⟨rest, split⟩ := List.rdropWhile_prefix isBlank (l := text.toList.dropWhile isBlank)
    have front : (text.toList.dropWhile isBlank).head? = some c := by
      rw [← split, List.head?_append, Option.mem_def.mp first]
      rfl
    have stopped := List.head?_dropWhile_not isBlank text.toList
    rw [front] at stopped
    simpa using stopped
  · intro c last
    have filled : (text.toList.dropWhile isBlank).rdropWhile isBlank ≠ [] := by
      intro empty
      rw [empty] at last
      cases last
    rw [List.getLast?_eq_some_getLast filled] at last
    obtain rfl := Option.mem_some.mp last
    simpa using List.rdropWhile_last_not isBlank _ filled

/-- **A text is trimmed to the core that stands between blanks.** -/
theorem trim_eq_iff {text core : String} :
    trim text = core ↔ IsTrimmed core.toList ∧ ∃ before after,
      text.toList = before ++ core.toList ++ after
      ∧ (∀ c ∈ before, isBlank c = true) ∧ ∀ c ∈ after, isBlank c = true := by
  constructor
  · rintro rfl
    refine ⟨isTrimmed_trim text, text.toList.takeWhile isBlank,
      (text.toList.dropWhile isBlank).rtakeWhile isBlank, ?_, ?_, ?_⟩
    · rw [toList_trim, List.append_assoc, List.rdropWhile_append_rtakeWhile,
        List.takeWhile_append_dropWhile]
    · intro c member
      exact List.mem_takeWhile_imp member
    · intro c member
      exact List.mem_rtakeWhile_imp member
  · rintro ⟨trimmed, before, after, split, leading, trailing⟩
    apply String.toList_inj.mp
    rw [toList_trim, split, List.append_assoc, dropWhile_append_of_blank leading]
    by_cases filled : core.toList = []
    · rw [filled, List.nil_append, List.dropWhile_eq_nil_iff.mpr trailing]
      rfl
    · rw [trimmed.dropWhile_append filled, rdropWhile_append_of_blank trailing,
        trimmed.rdropWhile_eq]

/-- Nothing is left of a text by trimming if all of it is blank. -/
theorem trim_eq_empty_iff {text : String} :
    trim text = "" ↔ ∀ c ∈ text.toList, isBlank c = true := by
  constructor
  · intro empty
    obtain ⟨-, before, after, split, leading, trailing⟩ := trim_eq_iff.mp empty
    rw [split, String.toList_empty, List.append_nil]
    exact List.forall_mem_append.mpr ⟨leading, trailing⟩
  · intro blank
    exact trim_eq_iff.mpr ⟨⟨by simp, by simp⟩, text.toList, [], by simp, blank, by simp⟩

/-- Trimmed characters are left alone. -/
theorem trim_eq_self {text : String} (h : IsTrimmed text.toList) : trim text = text :=
  trim_eq_iff.mpr ⟨h, [], [], by simp, by simp, by simp⟩

/-- Trimming twice is trimming once. -/
theorem trim_trim (text : String) : trim (trim text) = trim text :=
  trim_eq_self (isTrimmed_trim text)

end KernelCensus
