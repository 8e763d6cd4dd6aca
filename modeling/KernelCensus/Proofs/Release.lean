/-
# The language of releases

What a release is, said without the reader: one or more non-empty groups of ASCII digits, joined
by single dots, each below 2^64 in value, and then a tag that neither takes up the last group nor
goes on with another one (`Spells`).

* `isRun_takeRun`, `takeRun_of_isRun` : the reader's run is the only longest one;
* `ofRelease?_eq_some_iff` : a text is read exactly when it spells a release;
* `ofName_exact` : the same with the error of every other text.

The reader's run goes over decimal digits of every script.  That changes nothing, since a group
with a foreign digit has no value and no tag holds one.
-/
import KernelCensus.ModuleTree
import KernelCensus.Text.Blank
import Mathlib.Data.Nat.Notation
import Mathlib.Tactic.ByContra

namespace KernelCensus

namespace Release

/-! ## Groups joined by dots -/

/-- One group alone is joined by nothing. -/
theorem intercalate_one (group : List Char) : List.intercalate ['.'] [group] = group := by
  simp [List.intercalate]

/-- A dot stands between the first group and the others. -/
theorem intercalate_cons (group next : List Char) (groups : List (List Char)) :
    List.intercalate ['.'] (group :: next :: groups)
      = group ++ '.' :: List.intercalate ['.'] (next :: groups) := by
  simp [List.intercalate]

/-- A character before the first group stands before the whole text. -/
theorem intercalate_push (c : Char) (group : List Char) (groups : List (List Char)) :
    List.intercalate ['.'] ((c :: group) :: groups)
      = c :: List.intercalate ['.'] (group :: groups) := by
  cases groups with
  | nil => rw [intercalate_one, intercalate_one]
  | cons next groups => rw [intercalate_cons, intercalate_cons, List.cons_append]

/-- What joined groups are made of: their characters, and dots. -/
theorem mem_intercalate {c : Char} {groups : List (List Char)}
    (h : c ∈ List.intercalate ['.'] groups) : c = '.' ∨ ∃ group ∈ groups, c ∈ group := by
  induction groups with
  | nil => simp [List.intercalate] at h
  | cons group groups ih =>
    cases groups with
    | nil =>
      rw [intercalate_one] at h
      exact Or.inr ⟨group, List.mem_cons_self, h⟩
    | cons next groups =>
      rw [intercalate_cons, List.mem_append, List.mem_cons] at h
      rcases h with first | dot | others
      · exact Or.inr ⟨group, List.mem_cons_self, first⟩
      · exact Or.inl dot
      · rcases ih others with dot | ⟨other, member, inside⟩
        · exact Or.inl dot
        · exact Or.inr ⟨other, List.mem_cons_of_mem _ member, inside⟩

/-! ## The longest run -/

/-- Whether a text would lengthen a run that stands before it. -/
def goesOn : List Char → Bool
  | [] => false
  | c :: cs => isDecimal c || (c == '.' && startsWithDecimal cs)

/-- The groups are a run at the front of the text, and the rest of it does not lengthen the run.
The first group may be empty. -/
structure IsRun (cs : List Char) (groups : List (List Char)) (tag : List Char) : Prop where
  text : cs = List.intercalate ['.'] groups ++ tag
  groups_ne_nil : groups ≠ []
  decimal : ∀ group ∈ groups, ∀ c ∈ group, isDecimal c = true
  stops : goesOn tag = false

/-- A decimal digit joins the first group of the run behind it. -/
theorem IsRun.push {c : Char} {cs group tag : List Char} {groups : List (List Char)}
    (h : isDecimal c = true) (run : IsRun cs (group :: groups) tag) :
    IsRun (c :: cs) ((c :: group) :: groups) tag where
  text := by rw [intercalate_push, List.cons_append, ← run.text]
  groups_ne_nil := List.cons_ne_nil _ _
  decimal := by
    intro other member d inside
    rcases List.mem_cons.mp member with rfl | later
    · rcases List.mem_cons.mp inside with rfl | inside
      · exact h
      · exact run.decimal group List.mem_cons_self d inside
    · exact run.decimal other (List.mem_cons_of_mem _ later) d inside
  stops := run.stops

/-- A dot opens a run whose first group is empty. -/
theorem IsRun.dot {cs tag : List Char} {groups : List (List Char)} (run : IsRun cs groups tag) :
    IsRun ('.' :: cs) ([] :: groups) tag where
  text := by
    obtain ⟨group, others, rfl⟩ := List.exists_cons_of_ne_nil run.groups_ne_nil
    rw [intercalate_cons, List.nil_append, List.cons_append, ← run.text]
  groups_ne_nil := List.cons_ne_nil _ _
  decimal := by
    intro group member
    rcases List.mem_cons.mp member with rfl | later
    · simp
    · exact run.decimal group later
  stops := run.stops

/-- What does not lengthen a run has the empty run at its front. -/
theorem IsRun.none {cs : List Char} (h : goesOn cs = false) : IsRun cs [[]] cs where
  text := by rw [intercalate_one, List.nil_append]
  groups_ne_nil := List.cons_ne_nil _ _
  decimal := by simp
  stops := h

/-- **The run that is read is a longest one.** -/
theorem isRun_takeRun (cs : List Char) : IsRun cs (takeRun cs).1 (takeRun cs).2 := by
  induction cs with
  | nil => exact .none rfl
  | cons c cs ih =>
    rw [takeRun]
    by_cases digit : isDecimal c = true
    · obtain ⟨group, groups, shape⟩ := List.exists_cons_of_ne_nil ih.groups_ne_nil
      have split : takeRun cs = (group :: groups, (takeRun cs).2) := by rw [← shape]
      rw [if_pos digit, split]
      rw [shape] at ih
      exact ih.push digit
    · rw [if_neg digit]
      by_cases dot : (c == '.' && startsWithDecimal cs) = true
      · have is_dot : c = '.' := by simpa using (Bool.and_eq_true_iff.mp dot).1
        rw [if_pos dot, is_dot]
        exact ih.dot
      · rw [if_neg dot]
        exact .none (by simp only [goesOn, digit, dot]; rfl)

/-- Digits before a run join its first group. -/
theorem takeRun_append {group rest first tag : List Char} {others : List (List Char)}
    (h : ∀ c ∈ group, isDecimal c = true) (split : takeRun rest = (first :: others, tag)) :
    takeRun (group ++ rest) = ((group ++ first) :: others, tag) := by
  induction group with
  | nil => exact split
  | cons c group ih =>
    have read := ih fun d inside => h d (List.mem_cons_of_mem _ inside)
    rw [List.cons_append, takeRun, if_pos (h c List.mem_cons_self), read, List.cons_append]

/-- A text that would lengthen no run is read as a tag. -/
theorem takeRun_of_stops {cs : List Char} (h : goesOn cs = false) : takeRun cs = ([[]], cs) := by
  cases cs with
  | nil => rfl
  | cons c cs =>
    rw [goesOn, Bool.or_eq_false_iff] at h
    rw [takeRun, h.1, h.2]
    rfl

/-- Joined groups of which the first holds a decimal digit at its front start with it. -/
theorem startsWithDecimal_intercalate {group tag : List Char} {groups : List (List Char)}
    (filled : group ≠ []) (h : ∀ c ∈ group, isDecimal c = true) :
    startsWithDecimal (List.intercalate ['.'] (group :: groups) ++ tag) = true := by
  obtain ⟨c, rest, rfl⟩ := List.exists_cons_of_ne_nil filled
  rw [intercalate_push, List.cons_append]
  exact h c List.mem_cons_self

/-- **A longest run of non-empty groups is the run that is read.** -/
theorem takeRun_of_isRun {cs tag : List Char} {groups : List (List Char)}
    (run : IsRun cs groups tag) (filled : ∀ group ∈ groups, group ≠ []) :
    takeRun cs = (groups, tag) := by
  obtain ⟨rfl, groups_ne_nil, decimal, stops⟩ := run
  -- Behind each group but the last stands a dot with a digit after it, so that the run goes on.
  induction groups with
  | nil => exact absurd rfl groups_ne_nil
  | cons group groups ih =>
    have decimal_group := decimal group List.mem_cons_self
    cases groups with
    | nil =>
      rw [intercalate_one, takeRun_append decimal_group (takeRun_of_stops stops), List.append_nil]
    | cons next groups =>
      have decimal_others := fun other member => decimal other (List.mem_cons_of_mem _ member)
      have filled_others := fun other member => filled other (List.mem_cons_of_mem _ member)
      have read := ih filled_others (List.cons_ne_nil _ _) decimal_others
      have digit : startsWithDecimal (List.intercalate ['.'] (next :: groups) ++ tag) = true :=
        startsWithDecimal_intercalate (filled_others next List.mem_cons_self)
          (decimal_others next List.mem_cons_self)
      have behind : takeRun ('.' :: (List.intercalate ['.'] (next :: groups) ++ tag))
          = ([] :: next :: groups, tag) := by
        rw [takeRun, if_neg (by decide), if_pos (by rw [digit]; rfl), read]
      rw [intercalate_cons, List.append_assoc, List.cons_append,
        takeRun_append decimal_group behind, List.append_nil]

/-! ## The values of groups -/

/-- The number that a group of digits stands for in decimal. -/
def value (group : List Char) : ℕ :=
  Nat.ofDigitChars 10 group 0

/-- A group of ASCII digits that is not empty. -/
def IsGroup (group : List Char) : Prop :=
  group ≠ [] ∧ ∀ c ∈ group, c.isDigit = true

/-- The segment of a group is its value, if the group is one of ASCII digits and fits. -/
theorem segment?_eq_some_iff {group : List Char} {segment : UInt64} :
    segment? group = some segment
      ↔ IsGroup group ∧ value group < UInt64.size ∧ segment.toNat = value group := by
  have fits_iff : ((!group.isEmpty && group.all Char.isDigit) = true
      ∧ Nat.ofDigitChars 10 group 0 < UInt64.size) ↔ IsGroup group ∧ value group < UInt64.size := by
    simp [IsGroup, value]
  rw [segment?]
  split
  · next fits =>
    obtain ⟨well_formed, below⟩ := fits_iff.mp fits
    rw [Option.some_inj]
    constructor
    · rintro rfl
      exact ⟨well_formed, below, UInt64.toNat_ofNatLT⟩
    · rintro ⟨-, -, same⟩
      exact UInt64.toNat_inj.mp (by rw [UInt64.toNat_ofNatLT, same]; rfl)
  · next misfit =>
    constructor
    · intro absurd
      cases absurd
    · rintro ⟨well_formed, below, -⟩
      exact absurd (fits_iff.mpr ⟨well_formed, below⟩) misfit

/-- The segments of groups are their values, if each group is one of ASCII digits and fits. -/
theorem mapM_segment?_eq_some_iff {groups : List (List Char)} {segments : List UInt64} :
    groups.mapM segment? = some segments
      ↔ (∀ group ∈ groups, IsGroup group) ∧ (∀ group ∈ groups, value group < UInt64.size)
        ∧ segments.map UInt64.toNat = groups.map value := by
  induction groups generalizing segments with
  | nil => simp
  | cons group groups ih =>
    rw [List.mapM_cons]
    constructor
    · intro read
      obtain ⟨segment, first, read⟩ := Option.bind_eq_some_iff.mp read
      obtain ⟨others, rest, read⟩ := Option.bind_eq_some_iff.mp read
      obtain ⟨well_formed, below, same⟩ := segment?_eq_some_iff.mp first
      obtain ⟨all_well_formed, all_below, all_same⟩ := ih.mp rest
      obtain rfl : segment :: others = segments := Option.some_inj.mp read
      refine ⟨?_, ?_, ?_⟩
      · exact List.forall_mem_cons.mpr ⟨well_formed, all_well_formed⟩
      · exact List.forall_mem_cons.mpr ⟨below, all_below⟩
      · rw [List.map_cons, List.map_cons, same, all_same]
    · rintro ⟨well_formed, below, same⟩
      rw [List.forall_mem_cons] at well_formed below
      cases segments with
      | nil => cases same
      | cons segment segments =>
        rw [List.map_cons, List.map_cons, List.cons.injEq] at same
        have first := segment?_eq_some_iff.mpr ⟨well_formed.1, below.1, same.1⟩
        have rest := ih.mpr ⟨well_formed.2, below.2, same.2⟩
        rw [first, rest]
        rfl

/-! ## The grammar -/

/-- A character that may stand inside a tag. -/
def InTag (c : Char) : Prop :=
  c.isAlphanum = true ∨ c = '_' ∨ c = '.' ∨ c = '-'

/-- **A spelling of a release**: how its text falls into the groups of the run and the tag. -/
structure Spells (release : String) (groups : List (List Char)) (tag : List Char) : Prop where
  text : release.toList = List.intercalate ['.'] groups ++ tag
  groups_ne_nil : groups ≠ []
  groups_digits : ∀ group ∈ groups, IsGroup group
  groups_fit : ∀ group ∈ groups, value group < UInt64.size
  tag_shape : tag = [] ∨ ∃ mark rest, tag = mark :: rest ∧ (mark = '.' ∨ mark = '-')
    ∧ ∀ c ∈ rest, InTag c
  maximal : ∀ c rest, tag = '.' :: c :: rest → c.isDigit = false

/-- The characters of a tag are ASCII characters. -/
theorem InTag.ascii {c : Char} (h : InTag c) : c.toNat < 0x80 := by
  rcases h with alphanum | rfl | rfl | rfl
  · delta Char.isAlphanum Char.isAlpha Char.isUpper Char.isLower Char.isDigit at alphanum
    simp only [Bool.or_eq_true, Bool.and_eq_true, decide_eq_true_eq, ge_iff_le,
      UInt32.le_iff_toNat_le, Char.toNat_val] at alphanum
    have letters : 'Z'.toNat = 90 ∧ 'z'.toNat = 122 ∧ '9'.toNat = 57 := by decide
    omega
  · decide
  · decide
  · decide

/-- The characters of a tag are not blank. -/
theorem InTag.not_blank {c : Char} (h : InTag c) : isBlank c = false := by
  have ascii_blanks : ∀ n < 0x80, isBlank (Char.ofNat n) = true →
      ¬ ((Char.ofNat n).isAlphanum = true ∨ Char.ofNat n = '_' ∨ Char.ofNat n = '.'
        ∨ Char.ofNat n = '-') := by decide
  by_contra blank
  have refuted := ascii_blanks c.toNat h.ascii
  rw [Char.ofNat_toNat] at refuted
  exact refuted (by simpa using blank) h

/-- What the reader takes for a tag is empty, or a mark with the characters of a tag behind it. -/
theorem isTag_iff {tag : List Char} :
    isTag tag = true ↔ tag = [] ∨ ∃ mark rest, tag = mark :: rest ∧ (mark = '.' ∨ mark = '-')
      ∧ ∀ c ∈ rest, InTag c := by
  cases tag with
  | nil => simp [isTag]
  | cons mark rest =>
    simp only [isTag, isTagChar, InTag, Bool.and_eq_true, Bool.or_eq_true, beq_iff_eq,
      List.all_eq_true, reduceCtorEq, false_or, List.cons.injEq, or_assoc]
    constructor
    · intro h
      exact ⟨mark, rest, ⟨rfl, rfl⟩, h⟩
    · rintro ⟨_, _, ⟨rfl, rfl⟩, h⟩
      exact h

/-- The tag of a spelling does not lengthen the run, whatever script a digit in it might be of. -/
theorem Spells.stops {release : String} {groups : List (List Char)} {tag : List Char}
    (h : Spells release groups tag) : goesOn tag = false := by
  rcases h.tag_shape with rfl | ⟨mark, rest, rfl, rfl | rfl, in_tag⟩
  · rfl
  · cases rest with
    | nil => decide
    | cons c rest =>
      -- Being in a tag, the digit would be an ASCII one, which `maximal` keeps from standing here.
      by_contra lengthens
      have decimal : isDecimal c = true := by
        simpa [goesOn, startsWithDecimal, show isDecimal '.' = false by decide] using lengthens
      have digit := isDigit_of_isDecimal decimal (in_tag c List.mem_cons_self).ascii
      rw [h.maximal c rest rfl] at digit
      cases digit
  · rw [goesOn, show isDecimal '-' = false by decide]
    rfl

/-- The groups of a spelling are the longest run. -/
theorem Spells.isRun {release : String} {groups : List (List Char)} {tag : List Char}
    (h : Spells release groups tag) : IsRun release.toList groups tag where
  text := h.text
  groups_ne_nil := h.groups_ne_nil
  decimal := fun group member c inside =>
    isDecimal_of_isDigit ((h.groups_digits group member).2 c inside)
  stops := h.stops

/-- A spelling is what the reader splits the text into. -/
theorem Spells.takeRun_eq {release : String} {groups : List (List Char)} {tag : List Char}
    (h : Spells release groups tag) : takeRun release.toList = (groups, tag) :=
  takeRun_of_isRun h.isRun fun group member => (h.groups_digits group member).1

/-- **A text is read exactly when it spells a release, and to the values of its groups.** -/
theorem ofRelease?_eq_some_iff {release : String} {version : Version} :
    Version.ofRelease? release = some version
      ↔ ∃ groups tag, Spells release groups tag
        ∧ version.segments.map UInt64.toNat = groups.map value := by
  have run := isRun_takeRun release.toList
  constructor
  · intro read
    simp only [Version.ofRelease?] at read
    split at read
    · next is_tag =>
      obtain ⟨segments, all_read, rfl⟩ := Option.map_eq_some_iff.mp read
      obtain ⟨well_formed, fit, same⟩ := mapM_segment?_eq_some_iff.mp all_read
      refine ⟨_, _, ⟨run.text, run.groups_ne_nil, well_formed, fit, isTag_iff.mp is_tag, ?_⟩, same⟩
      -- A digit behind a dot would be part of the run, not of the tag.
      intro c rest tag_eq
      by_contra digit
      have decimal : isDecimal c = true := isDecimal_of_isDigit (by simpa using digit)
      have stops := run.stops
      rw [tag_eq, goesOn, startsWithDecimal, decimal] at stops
      simp at stops
    · cases read
  · rintro ⟨groups, tag, spells, same⟩
    have is_tag := isTag_iff.mpr spells.tag_shape
    have all_read := mapM_segment?_eq_some_iff.mpr ⟨spells.groups_digits, spells.groups_fit, same⟩
    rw [Version.ofRelease?, spells.takeRun_eq]
    simp only [is_tag, all_read, if_true, Option.map_some]

/-- What spells a release is read. -/
theorem Spells.read {release : String} {groups : List (List Char)} {tag : List Char}
    (h : Spells release groups tag) : ∃ version, Version.ofRelease? release = some version := by
  refine ⟨⟨groups.map fun group => UInt64.ofNat (value group)⟩, ?_⟩
  refine ofRelease?_eq_some_iff.mpr ⟨groups, tag, h, ?_⟩
  rw [List.map_map]
  refine List.map_congr_left fun group member => ?_
  exact UInt64.toNat_ofNat_of_lt' (h.groups_fit group member)

/-- What spells no release is not read. -/
theorem ofRelease?_eq_none_iff {release : String} :
    Version.ofRelease? release = none ↔ ¬ ∃ groups tag, Spells release groups tag := by
  constructor
  · rintro unread ⟨groups, tag, spells⟩
    obtain ⟨version, read⟩ := spells.read
    rw [unread] at read
    cases read
  · intro unspelled
    rw [Option.eq_none_iff_forall_not_mem]
    intro version read
    obtain ⟨groups, tag, spells, -⟩ := ofRelease?_eq_some_iff.mp read
    exact unspelled ⟨groups, tag, spells⟩

/-- A digit of another script belongs to the run but leaves its group without a value. -/
example : Version.ofRelease? "6.1٣" = none := by decide

/-- A run does not give its last group back so that the tag would fit. -/
example : Version.ofRelease? "6.11.6.1x" = none := by decide

/-- Every character of a spelling is one that may stand inside a tag. -/
theorem Spells.inTag {release : String} {groups : List (List Char)} {tag : List Char}
    (h : Spells release groups tag) : ∀ c ∈ release.toList, InTag c := by
  intro c inside
  rw [h.text, List.mem_append] at inside
  rcases inside with run | tag_char
  · rcases mem_intercalate run with rfl | ⟨group, member, digit⟩
    · exact Or.inr (Or.inr (Or.inl rfl))
    · left
      rw [Char.isAlphanum, (h.groups_digits group member).2 c digit, Bool.or_true]
  · rcases h.tag_shape with rfl | ⟨mark, rest, rfl, is_mark, in_tag⟩
    · cases tag_char
    · rcases List.mem_cons.mp tag_char with rfl | later
      · exact Or.inr (Or.inr is_mark)
      · exact in_tag c later

/-- **Exactly the releases are read.**  Reading succeeds on the texts that spell a release, with
the values of the groups as segments; every other text fails with the error that quotes it.  A text
has one spelling at most.  One foreign or blank character, wherever it stands, is enough to fail. -/
theorem ofName_exact (release : String) :
    (∀ version, Version.ofName release = .ok version
      ↔ ∃ groups tag, Spells release groups tag
        ∧ version.segments.map UInt64.toNat = groups.map value)
    ∧ (∀ error, Version.ofName release = .error error
      ↔ error = .badRelease release ∧ ¬ ∃ groups tag, Spells release groups tag)
    ∧ (∀ groups tag groups' tag', Spells release groups tag → Spells release groups' tag' →
      groups = groups' ∧ tag = tag')
    ∧ ((∃ c ∈ release.toList,
        0x80 ≤ c.toNat ∨ (isDecimal c = true ∧ c.isDigit = false) ∨ isBlank c = true) →
      Version.ofName release = .error (.badRelease release)) := by
  refine ⟨?_, ?_, ?_, ?_⟩
  · intro version
    rw [← ofRelease?_eq_some_iff, Version.ofName]
    cases Version.ofRelease? release <;> simp
  · intro error
    rw [← ofRelease?_eq_none_iff, Version.ofName]
    cases Version.ofRelease? release <;> simp [eq_comm]
  · intro groups tag groups' tag' spells spells'
    have same := spells.takeRun_eq.symm.trans spells'.takeRun_eq
    exact Prod.mk.inj same
  · rintro ⟨c, inside, foreign⟩
    have unspelled : ¬ ∃ groups tag, Spells release groups tag := by
      -- All that a release is spelled with may stand in a tag as well.
      rintro ⟨groups, tag, spells⟩
      have in_tag := spells.inTag c inside
      have ascii := in_tag.ascii
      rcases foreign with high | ⟨decimal, no_digit⟩ | blank
      · omega
      · rw [isDigit_of_isDecimal decimal ascii] at no_digit
        cases no_digit
      · rw [in_tag.not_blank] at blank
        cases blank
    rw [Version.ofName, ofRelease?_eq_none_iff.mpr unspelled]

end Release

end KernelCensus
