/-
# Versions in words

The text of a version is a release, and reading it gives the version back, segment for segment,
also where a tag stands behind it (`spells_text`).  The other way round, the version of a release
has the groups of the release as its text, each without the zeros in front of it
(`text_of_spells`).  So the two are inverse as far as a release keeps what it was read from
(`text_inverse`).
-/
import Mathlib.Data.List.DropRight
import Mathlib.Data.List.Induction
import KernelCensus.Proofs.Release
import KernelCensus.Proofs.Resolution

namespace KernelCensus

namespace Release

/-! ## Groups without leading zeros -/

/-- A group of digits without the zeros in front of it; of zeros alone, one is left. -/
def withoutZeros (group : List Char) : List Char :=
  match group.dropWhile (· == '0') with
  | [] => ['0']
  | digits => digits

/-- A digit is the character of a number below ten. -/
theorem exists_digitChar_of_isDigit {c : Char} (h : c.isDigit = true) :
    ∃ d < 10, c = Nat.digitChar d := by
  have bounds : 0x30 ≤ c.toNat ∧ c.toNat ≤ 0x39 := Char.isDigit_iff_toNat.mp h
  refine ⟨c.toNat - 0x30, by omega, ?_⟩
  rw [← Char.toNat_inj, Nat.toNat_digitChar_of_lt_ten (by omega)]
  omega

/-- One more digit makes the value ten times as large and adds its own. -/
theorem value_concat (group : List Char) {d : ℕ} (h : d < 10) :
    value (group ++ [Nat.digitChar d]) = 10 * value group + d := by
  rw [value, Nat.ofDigitChars_append, Nat.ofDigitChars_cons_digitChar_of_lt_ten h,
    Nat.ofDigitChars_nil]
  rfl

/-- A group has no value exactly where it holds zeros only. -/
theorem value_eq_zero_iff {group : List Char} (h : ∀ c ∈ group, c.isDigit = true) :
    value group = 0 ↔ group.dropWhile (· == '0') = [] := by
  rw [List.dropWhile_eq_nil_iff]
  induction group using List.reverseRecOn with
  | nil => simp [value]
  | append_singleton group c ih =>
    rw [List.forall_mem_append, List.forall_mem_singleton] at h
    obtain ⟨d, small, rfl⟩ := exists_digitChar_of_isDigit h.2
    rw [value_concat group small, List.forall_mem_append, List.forall_mem_singleton, ← ih h.1,
      beq_iff_eq, Nat.digitChar_eq_zero]
    omega

/-- One more digit stays behind what was without leading zeros, if anything was. -/
theorem withoutZeros_concat {group : List Char} (h : ∀ c ∈ group, c.isDigit = true) (c : Char) :
    withoutZeros (group ++ [c])
      = if value group = 0 then [c] else withoutZeros group ++ [c] := by
  rw [withoutZeros, withoutZeros, List.dropWhile_append]
  by_cases zeros : group.dropWhile (· == '0') = []
  · rw [if_pos ((value_eq_zero_iff h).mpr zeros), zeros]
    by_cases zero : c = '0' <;> simp [zero]
  · rw [if_neg fun none => zeros ((value_eq_zero_iff h).mp none)]
    obtain ⟨d, ds, shape⟩ := List.exists_cons_of_ne_nil zeros
    rw [shape]
    rfl

/-- **The decimal form of the value of a group is the group without its leading zeros.** -/
theorem toDigits_value {group : List Char} (h : ∀ c ∈ group, c.isDigit = true) :
    Nat.toDigits 10 (value group) = withoutZeros group := by
  induction group using List.reverseRecOn with
  | nil => rfl
  | append_singleton group c ih =>
    rw [List.forall_mem_append, List.forall_mem_singleton] at h
    rw [withoutZeros_concat h.1, ← ih h.1]
    obtain ⟨d, small, rfl⟩ := exists_digitChar_of_isDigit h.2
    rw [value_concat group small]
    by_cases zero : value group = 0
    · rw [if_pos zero, zero, Nat.mul_zero, Nat.zero_add, Nat.toDigits_of_lt_base small]
    · rw [if_neg zero, ← Nat.toDigits_append_toDigits (by omega) (by omega) small,
        Nat.toDigits_of_lt_base small]

/-! ## Reading what was written -/

/-- The digits of a segment are a group. -/
theorem isGroup_digits (segment : UInt64) : IsGroup (Version.digits segment) :=
  ⟨Nat.toDigits_ne_nil, fun _ member => Nat.isDigit_of_mem_toDigits (by decide) (by decide) member⟩

/-- The digits of a segment have its value. -/
theorem value_digits (segment : UInt64) : value (Version.digits segment) = segment.toNat :=
  Nat.ofDigitChars_ten_toDigits

/-- The characters of the text of a version. -/
theorem toList_text (version : Version) :
    version.text.toList = List.intercalate ['.'] (version.segments.map Version.digits) :=
  String.toList_ofList

/-- Nothing, or a dash with the characters of a tag behind it: a tag for every run. -/
def IsDashed (tag : List Char) : Prop :=
  tag = [] ∨ ∃ rest, tag = '-' :: rest ∧ ∀ c ∈ rest, InTag c

/-- **The text of a version spells a release**, by the digits of its segments, also with a tag
behind it that starts with a dash. -/
theorem spells_text {version : Version} (filled : version.segments ≠ []) {tag : List Char}
    (dashed : IsDashed tag) :
    Spells (version.text ++ String.ofList tag) (version.segments.map Version.digits) tag where
  text := by rw [String.toList_append, toList_text, String.toList_ofList]
  groups_ne_nil := by
    intro none
    exact filled (List.map_eq_nil_iff.mp none)
  groups_digits := by
    intro group member
    obtain ⟨segment, -, rfl⟩ := List.mem_map.mp member
    exact isGroup_digits segment
  groups_fit := by
    intro group member
    obtain ⟨segment, -, rfl⟩ := List.mem_map.mp member
    rw [value_digits]
    exact segment.toNat_lt
  tag_shape := by
    rcases dashed with rfl | ⟨rest, rfl, in_tag⟩
    · exact Or.inl rfl
    · exact Or.inr ⟨'-', rest, rfl, Or.inr rfl, in_tag⟩
  maximal := by
    -- No dot stands at the front of such a tag.
    rintro c rest tag_eq
    rcases dashed with rfl | ⟨_, rfl, -⟩ <;> cases tag_eq

/-- The text of a version is read as the version, whatever dashed tag stands behind it. -/
theorem ofName_text_append {version : Version} (filled : version.segments ≠ []) {tag : List Char}
    (dashed : IsDashed tag) : Version.ofName (version.text ++ String.ofList tag) = .ok version := by
  rw [Version.ofName_eq_ok_iff, ofRelease?_eq_some_iff]
  refine ⟨_, tag, spells_text filled dashed, ?_⟩
  rw [List.map_map]
  exact List.map_congr_left fun segment _ => (value_digits segment).symm

/-- The text of a version is read as the version. -/
theorem ofName_text {version : Version} (filled : version.segments ≠ []) :
    Version.ofName version.text = .ok version := by
  simpa using ofName_text_append filled (Or.inl rfl)

/-! ## Writing what was read -/

/-- **The version of a release has as its text the run of the release**, each group without its
leading zeros. -/
theorem text_of_spells {release : String} {groups : List (List Char)} {tag : List Char}
    {version : Version} (spells : Spells release groups tag)
    (same : version.segments.map UInt64.toNat = groups.map value) :
    version.text.toList = List.intercalate ['.'] (groups.map withoutZeros) := by
  rw [toList_text]
  congr 1
  calc version.segments.map Version.digits
      = (version.segments.map UInt64.toNat).map (Nat.toDigits 10) := by rw [List.map_map]; rfl
    _ = groups.map fun group => Nat.toDigits 10 (value group) := by rw [same, List.map_map]; rfl
    _ = groups.map withoutZeros := by
      apply List.map_congr_left
      intro group member
      exact toDigits_value (spells.groups_digits group member).2

/-- Leading zeros are lost, trailing segments of zeros are kept. -/
example : (Version.ofName "06.10.00-rc1").map Version.text = .ok "6.10.0" := by rfl

/-- What is read is a release of its version. -/
theorem exists_spells_of_ofName {release : String} {version : Version}
    (read : Version.ofName release = .ok version) : ∃ groups tag, Spells release groups tag
      ∧ version.segments.map UInt64.toNat = groups.map value :=
  ofRelease?_eq_some_iff.mp (Version.ofName_eq_ok_iff.mp read)

/-- What is read has segments. -/
theorem segments_ne_nil_of_ofName {release : String} {version : Version}
    (read : Version.ofName release = .ok version) : version.segments ≠ [] := by
  obtain ⟨groups, tag, spells, same⟩ := exists_spells_of_ofName read
  intro none
  rw [none, List.map_nil] at same
  exact spells.groups_ne_nil (List.map_eq_nil_iff.mp same.symm)

/-- The empty text is no release. -/
theorem ofName_empty : Version.ofName "" = .error (.badRelease "") := rfl

/-- A version whose text is empty has no segments. -/
theorem segments_eq_nil_of_text {version : Version} (empty : version.text = "") :
    version.segments = [] := by
  by_contra filled
  have read := ofName_text filled
  rw [empty, ofName_empty] at read
  cases read

/-- Versions of the same text are the same. -/
theorem text_injective : Function.Injective Version.text := by
  rintro ⟨segments⟩ ⟨segments'⟩ same
  by_cases none : segments = []
  · subst none
    have none' : segments' = [] := segments_eq_nil_of_text same.symm
    rw [none']
  · have filled' : segments' ≠ [] := by
      rintro rfl
      exact none (segments_eq_nil_of_text same)
    have read : Version.ofName (Version.text ⟨segments'⟩) = .ok ⟨segments⟩ := by
      rw [← same]
      exact ofName_text none
    rw [ofName_text filled'] at read
    exact (Except.ok.inj read).symm

/-- **Writing and reading versions are inverse to each other.**  The text of a version with
segments is read as exactly these segments, whatever tag with a dash in front stands behind it; the
version without segments has the empty text, which is not read.  The other way round, what is read
has the run of its release as text, each group without its leading zeros, and that text is read as
the same version again.  So no two versions have the same text. -/
theorem text_inverse :
    (∀ version : Version, version.segments ≠ [] → Version.ofName version.text = .ok version
      ∧ ∀ tag : String, (∀ c ∈ tag.toList, InTag c) →
        Version.ofName (version.text ++ "-" ++ tag) = .ok version)
    ∧ (Version.text ⟨[]⟩ = "" ∧ Version.ofName "" = .error (.badRelease ""))
    ∧ (∀ release version, Version.ofName release = .ok version →
      (∃ groups tag, Spells release groups tag
        ∧ version.text.toList = List.intercalate ['.'] (groups.map withoutZeros))
      ∧ Version.ofName version.text = .ok version)
    ∧ Function.Injective Version.text := by
  refine ⟨?_, ⟨Version.text_empty, ofName_empty⟩, ?_, text_injective⟩
  · intro version filled
    refine ⟨ofName_text filled, ?_⟩
    intro tag in_tag
    have dashed : IsDashed ('-' :: tag.toList) := Or.inr ⟨tag.toList, rfl, in_tag⟩
    have same : "-" ++ tag = String.ofList ('-' :: tag.toList) := by
      rw [← String.toList_inj, String.toList_append, String.toList_ofList, String.toList_ofList]
      exact List.singleton_append
    rw [String.append_assoc, same]
    exact ofName_text_append filled dashed
  · intro release version read
    obtain ⟨groups, tag, spells, same⟩ := exists_spells_of_ofName read
    refine ⟨⟨groups, tag, spells, text_of_spells spells same⟩, ?_⟩
    exact ofName_text (segments_ne_nil_of_ofName read)

end Release

end KernelCensus
