/-
# Other spellings of a module directory

The text of a directory is trimmed once and then stripped of slashes once.  Blanks around a text
therefore never count.  Slashes in front of it never make it fail, but they keep the blanks behind
them from being trimmed, so that they count where the text starts with a blank.  A kept text that
starts with a blank is not kept again as it is (`respelling`).
-/
import KernelCensus.Proofs.Acceptance

namespace KernelCensus

/-! ## Pieces behind other characters -/

namespace Path

/-- A character in front other than a dot brings no piece `..`. -/
theorem up_mem_splitOn_of_cons {c : Char} {cs : List Char} (h : c ≠ '.')
    (up : ['.', '.'] ∈ (c :: cs).splitOn '/') : ['.', '.'] ∈ cs.splitOn '/' := by
  rw [← splitSlash_eq_splitOn, splitSlash] at up
  rw [← splitSlash_eq_splitOn]
  split at up
  · simpa using up
  · obtain ⟨part, parts, shape⟩ := List.exists_cons_of_ne_nil (splitSlash_ne_nil cs)
    rw [shape] at up ⊢
    rcases List.mem_cons.mp up with first | later
    · exact absurd (List.cons.inj first).1.symm h
    · exact List.mem_cons_of_mem _ later

/-- Characters in front, none of them a dot, bring no piece `..`. -/
theorem up_mem_splitOn_of_append {front cs : List Char} (h : ∀ c ∈ front, c ≠ '.')
    (up : ['.', '.'] ∈ (front ++ cs).splitOn '/') : ['.', '.'] ∈ cs.splitOn '/' := by
  induction front with
  | nil => exact up
  | cons c front ih =>
    obtain ⟨first, others⟩ := List.forall_mem_cons.mp h
    exact ih others (up_mem_splitOn_of_cons first up)

end Path

/-! ## Trimmed characters -/

/-- Trimmed characters stay trimmed behind others of which the first is not blank. -/
theorem IsTrimmed.cons_append {core : List Char} (h : IsTrimmed core) (filled : core ≠ [])
    {c : Char} (inked : isBlank c = false) (cs : List Char) : IsTrimmed (c :: (cs ++ core)) := by
  constructor
  · intro d first
    cases first
    exact inked
  · intro d last
    apply h.last
    rw [← List.cons_append, List.getLast?_append_of_ne_nil _ filled] at last
    exact last

/-- A part at the end of trimmed characters is trimmed where it does not start with a blank. -/
theorem IsTrimmed.of_append {front core : List Char} (h : IsTrimmed (front ++ core))
    (filled : core ≠ []) (inked : ∀ c ∈ core.head?, isBlank c = false) : IsTrimmed core := by
  refine ⟨inked, fun c last => h.last c ?_⟩
  rw [List.getLast?_append_of_ne_nil _ filled]
  exact last

namespace Settings

/-- A text that starts with a blank. -/
def StartsBlank (text : String) : Prop :=
  ∃ c ∈ text.toList.head?, isBlank c = true

/-- That many slashes. -/
def slashes (n : Nat) : String :=
  String.ofList (List.replicate n '/')

variable {raw : String} {dir : Path}

/-- What is kept of a text has characters. -/
theorem KeepsDir.toList_ne_nil (h : KeepsDir raw dir) : dir.text.toList ≠ [] := fun none =>
  h.filled (String.toList_eq_nil_iff.mp none)

/-- What stands between the blanks around a kept text has characters. -/
theorem KeepsDir.core_ne_nil (h : KeepsDir raw dir) (front : List Char) :
    front ++ dir.text.toList ≠ [] :=
  List.append_ne_nil_of_right_ne_nil front h.toList_ne_nil

/-- A kept text starts with a blank where there are blanks to take off its front. -/
theorem KeepsDir.startsBlank_iff (h : KeepsDir raw dir) {before front after : List Char}
    (layers : Layers raw dir.text before front after) : StartsBlank raw ↔ before ≠ [] := by
  rw [StartsBlank, layers.split]
  cases before with
  | nil =>
    rw [List.nil_append, List.head?_append_of_ne_nil _ (h.core_ne_nil front)]
    have inked := layers.trimmed.head
    simp only [ne_eq, not_true_eq_false, iff_false]
    rintro ⟨c, first, blank⟩
    rw [inked c first] at blank
    cases blank
  | cons c before => simp [layers.leading c List.mem_cons_self]

/-! ## Blanks around a text -/

/-- **Blanks around a text do not change what is kept of it.** -/
theorem KeepsDir.of_blanks (h : KeepsDir raw dir) {left right : String}
    (left_blank : ∀ c ∈ left.toList, isBlank c = true)
    (right_blank : ∀ c ∈ right.toList, isBlank c = true) :
    KeepsDir (left ++ raw ++ right) dir := by
  obtain ⟨⟨before, front, after, layers⟩, filled, no_up⟩ := h
  have wider : Layers (left ++ raw ++ right) dir.text (left.toList ++ before) front
      (after ++ right.toList) :=
    { layers with
      split := by simp [layers.split]
      leading := List.forall_mem_append.mpr ⟨left_blank, layers.leading⟩
      trailing := List.forall_mem_append.mpr ⟨layers.trailing, right_blank⟩ }
  exact ⟨⟨_, _, _, wider⟩, filled, no_up⟩

/-! ## Slashes before a text -/

/-- Slashes before a text that does not start with a blank do not change what is kept of it. -/
theorem KeepsDir.of_slashes (h : KeepsDir raw dir) (inked : ¬ StartsBlank raw) (n : Nat) :
    KeepsDir (slashes (n + 1) ++ raw) dir := by
  obtain ⟨before, front, after, layers⟩ := h.stripped
  obtain rfl : before = [] := not_not.mp ((h.startsBlank_iff layers).not.mp inked)
  have more : Layers (slashes (n + 1) ++ raw) dir.text [] (List.replicate (n + 1) '/' ++ front)
      after :=
    { layers with
      split := by simp [slashes, layers.split]
      trimmed := by
        rw [List.append_assoc]
        exact layers.trimmed.cons_append (h.core_ne_nil front) rfl _
      slashes := by
        intro c member
        rcases List.mem_append.mp member with new | old
        · exact List.eq_of_mem_replicate new
        · exact layers.slashes c old }
  exact ⟨⟨_, _, _, more⟩, h.filled, h.no_up⟩

/-- **Slashes before a text that starts with a blank keep the blanks from being trimmed**: more is
kept of it than without them. -/
theorem KeepsDir.of_slashes_of_startsBlank (h : KeepsDir raw dir) (blank : StartsBlank raw)
    (n : Nat) : ∃ longer, KeepsDir (slashes (n + 1) ++ raw) longer ∧ longer ≠ dir := by
  obtain ⟨before, front, after, layers⟩ := h.stripped
  obtain ⟨c, others, rfl⟩ := List.exists_cons_of_ne_nil ((h.startsBlank_iff layers).mp blank)
  have c_blank : isBlank c = true := layers.leading c List.mem_cons_self
  have not_dot : ∀ d ∈ (c :: others) ++ front, d ≠ '.' := by
    rintro d member rfl
    rcases List.mem_append.mp member with among | among
    · exact absurd (layers.leading _ among) (by decide)
    · exact absurd (layers.slashes _ among) (by decide)
  -- All that stood in front of the directory, from its first blank on, is now kept with it.
  obtain ⟨longer, chars⟩ : ∃ longer : String,
      longer.toList = (c :: others) ++ front ++ dir.text.toList :=
    ⟨_, String.toList_ofList⟩
  have kept : Layers (slashes (n + 1) ++ raw) longer [] (List.replicate (n + 1) '/') after :=
    { leading := by simp
      trailing := layers.trailing
      split := by simp [slashes, layers.split, chars]
      trimmed := by
        rw [chars, List.append_assoc, ← List.append_assoc]
        exact layers.trimmed.cons_append (h.core_ne_nil front) rfl _
      slashes := fun _ member => List.eq_of_mem_replicate member
      relative := by
        rw [chars]
        rintro slash
        cases slash
        exact absurd c_blank (by decide) }
  refine ⟨⟨longer⟩, ⟨⟨_, _, _, kept⟩, ?_, ?_⟩, ?_⟩
  · rintro rfl
    cases chars
  · rw [chars]
    exact fun up => h.no_up (Path.up_mem_splitOn_of_append not_dot up)
  · rintro rfl
    have lengths := congrArg List.length chars
    simp only [List.length_append, List.length_cons] at lengths
    omega

/-! ## A kept text given back -/

/-- **A kept text is kept again as it is where it does not start with a blank.** -/
theorem KeepsDir.again_iff (h : KeepsDir raw dir) :
    KeepsDir dir.text dir ↔ ¬ StartsBlank dir.text := by
  constructor
  · intro again
    obtain ⟨before, front, after, layers⟩ := again.stripped
    -- Nothing can have been taken off, as what is left is as long as the text.
    have lengths := congrArg List.length layers.split
    simp only [List.length_append] at lengths
    rw [again.startsBlank_iff layers, not_not]
    exact List.length_eq_zero_iff.mp (by omega)
  · intro inked
    obtain ⟨before, front, after, layers⟩ := h.stripped
    have trimmed : IsTrimmed dir.text.toList := by
      refine layers.trimmed.of_append h.toList_ne_nil fun c first => ?_
      exact Bool.eq_false_iff.mpr fun blank => inked ⟨c, first, blank⟩
    have whole : Layers dir.text dir.text [] [] [] :=
      { split := by simp
        leading := by simp
        trailing := by simp
        trimmed := trimmed
        slashes := by simp
        relative := layers.relative }
    exact ⟨⟨_, _, _, whole⟩, h.filled, h.no_up⟩

/-! ## Documents -/

/-- Another text for the directory of an accepted document is checked alone. -/
theorem ofDocument_with_dir_iff {document : Document} {settings : Settings}
    (accepted : ofDocument document = .ok settings) :
    ofDocument { document with modulesDir := some raw } = .ok { settings with modulesDir := dir }
      ↔ KeepsDir raw dir := by
  rw [ofDocument_eq_ok_iff]
  exact ⟨fun given => given.dir, fun keeps => ⟨keeps, (ofDocument_eq_ok_iff.mp accepted).command⟩⟩

/-- **Other spellings of a module directory.**  Where a document with a text for the directory is
accepted, blanks around the text change nothing; the text with slashes in front is accepted, but
with the same settings only if there are none or the text does not start with a blank; and the kept
text given back yields the same settings exactly if it does not start with a blank. -/
theorem respelling {document : Document} {settings : Settings}
    (set : document.modulesDir = some raw) (accepted : ofDocument document = .ok settings) :
    (∀ left right : String, (∀ c ∈ left.toList, isBlank c = true) →
      (∀ c ∈ right.toList, isBlank c = true) →
      ofDocument { document with modulesDir := some (left ++ raw ++ right) } = .ok settings)
    ∧ (∀ n, ∃ settings',
      ofDocument { document with modulesDir := some (slashes n ++ raw) } = .ok settings'
      ∧ (settings' = settings ↔ n = 0 ∨ ¬ StartsBlank raw))
    ∧ (ofDocument { document with modulesDir := some settings.modulesDir.text } = .ok settings
      ↔ ¬ StartsBlank settings.modulesDir.text) := by
  have keeps : KeepsDir raw settings.modulesDir := by
    have given := (ofDocument_eq_ok_iff.mp accepted).dir
    rw [set] at given
    exact given
  refine ⟨?_, ?_, ?_⟩
  · intro left right left_blank right_blank
    exact (ofDocument_with_dir_iff accepted).mpr (keeps.of_blanks left_blank right_blank)
  · intro n
    cases n with
    | zero =>
      refine ⟨settings, ?_, by simp⟩
      have none_added : slashes 0 ++ raw = raw := by
        apply String.toList_inj.mp
        rw [String.toList_append, slashes, String.toList_ofList]
        rfl
      rw [none_added]
      exact (ofDocument_with_dir_iff accepted).mpr keeps
    | succ n =>
      by_cases blank : StartsBlank raw
      · obtain ⟨longer, kept, differs⟩ := keeps.of_slashes_of_startsBlank blank n
        refine ⟨_, (ofDocument_with_dir_iff accepted).mpr kept, ?_⟩
        have not_same : { settings with modulesDir := longer } ≠ settings := fun same =>
          differs (congrArg Settings.modulesDir same)
        simp [not_same, blank]
      · exact ⟨settings, (ofDocument_with_dir_iff accepted).mpr (keeps.of_slashes blank n),
          by simp [blank]⟩
  · exact (ofDocument_with_dir_iff accepted).trans keeps.again_iff

/-- A blank behind a slash is kept, and then not kept again. -/
theorem respelling_of_slash_space :
    ofDocument { modulesDir := some "/ usr" } = .ok { modulesDir := ⟨" usr"⟩ }
    ∧ ofDocument { modulesDir := some " usr" } ≠ .ok { modulesDir := ⟨" usr"⟩ } := by
  have set : ({ modulesDir := some "/ usr" } : Document).modulesDir = some "/ usr" := rfl
  have accepted : ofDocument { modulesDir := some "/ usr" } = .ok { modulesDir := ⟨" usr"⟩ } := by
    decide +kernel
  obtain ⟨-, -, again⟩ := respelling set accepted
  exact ⟨accepted, fun back => again.mp back ⟨' ', rfl, by decide⟩⟩

/-- Of two texts that differ by a slash in front, different directories are kept, and what is kept
of the first is the second, of which something else is kept. -/
theorem slash_before_blank_counts :
    let slash := "modules_dir = \"/ usr/lib/modules\""
    let blank := "modules_dir = \" usr/lib/modules\""
    let reader := readerOf [(slash, { modulesDir := some "/ usr/lib/modules" }),
      (blank, { modulesDir := some " usr/lib/modules" })]
    ofText reader slash = .ok { modulesDir := ⟨" usr/lib/modules"⟩ }
    ∧ ofText reader blank = .ok { modulesDir := ⟨"usr/lib/modules"⟩ } := by
  decide +kernel

end Settings

end KernelCensus
