/-
# Paths below a root

The components of a joined path are those of its left side and then the parts of its right side,
unless the right side starts at the root (`components_join`), and a path that starts there may be
taken from it (`components_withoutRoot`).  Nothing but a part `..` leads up, so a path joined from
names stays below where it began.
-/
import KernelCensus.Path
import Mathlib.Tactic.ByContra

namespace KernelCensus

namespace Path

/-! ## Parts -/

/-- The components of a path apart from where it starts. -/
def parts (p : Path) : List Component :=
  (splitSlash p.text.toList).filterMap componentOf?

/-- A slash ends one part and begins the next. -/
theorem splitSlash_append (left right : List Char) :
    splitSlash (left ++ '/' :: right) = splitSlash left ++ splitSlash right := by
  induction left with
  | nil => rfl
  | cons c left ih =>
    rw [List.cons_append, splitSlash, splitSlash, ih]
    by_cases slash : c = '/'
    · rw [if_pos slash, if_pos slash, List.cons_append]
    · obtain ⟨part, others, shape⟩ := List.exists_cons_of_ne_nil (splitSlash_ne_nil left)
      rw [if_neg slash, if_neg slash, shape, List.cons_append]
      rfl

/-- A text without slashes is one part. -/
theorem splitSlash_of_not_mem {cs : List Char} (h : '/' ∉ cs) : splitSlash cs = [cs] := by
  induction cs with
  | nil => rfl
  | cons c cs ih =>
    rw [List.mem_cons, not_or] at h
    rw [splitSlash, if_neg fun slash => h.1 slash.symm, ih h.2]

/-- There are no slashes between slashes. -/
theorem slash_not_mem_of_mem_splitSlash {cs part : List Char} (h : part ∈ splitSlash cs) :
    '/' ∉ part := by
  induction cs generalizing part with
  | nil =>
    cases List.mem_singleton.mp h
    exact List.not_mem_nil
  | cons c cs ih =>
    rw [splitSlash] at h
    split at h
    · rcases List.mem_cons.mp h with rfl | later
      · exact List.not_mem_nil
      · exact ih later
    · next other =>
      obtain ⟨first, others, shape⟩ := List.exists_cons_of_ne_nil (splitSlash_ne_nil cs)
      rw [shape] at h ih
      rcases List.mem_cons.mp h with rfl | later
      · rw [List.mem_cons, not_or]
        exact ⟨fun same => other same.symm, ih List.mem_cons_self⟩
      · exact ih (List.mem_cons_of_mem _ later)

/-- Parts with a slash between each two are split into the parts. -/
theorem splitSlash_intercalate {part : List Char} {others : List (List Char)}
    (plain : ∀ piece ∈ part :: others, '/' ∉ piece) :
    splitSlash (['/'].intercalate (part :: others)) = part :: others := by
  induction others generalizing part with
  | nil =>
    rw [List.intercalate_singleton]
    exact splitSlash_of_not_mem (plain part List.mem_cons_self)
  | cons next others ih =>
    obtain ⟨first, later⟩ := List.forall_mem_cons.mp plain
    rw [List.intercalate_cons_cons, List.append_assoc, List.singleton_append, splitSlash_append,
      splitSlash_of_not_mem first, ih later]
    rfl

/-- A part leads up or to a name. -/
theorem up_or_name_of_mem_parts {p : Path} {part : Component} (h : part ∈ p.parts) :
    part = .up ∨ ∃ text, part = .name text := by
  obtain ⟨cs, -, read⟩ := List.mem_filterMap.mp h
  rw [componentOf?] at read
  split at read
  · cases read
  · split at read
    · exact Or.inl (Option.some_inj.mp read).symm
    · exact Or.inr ⟨_, (Option.some_inj.mp read).symm⟩

/-- A path starts at the root only if it starts with a slash. -/
theorem eq_here_of_mem_start {cs : List Char} (relative : cs.head? ≠ some '/') {part : Component}
    (h : part ∈ start cs) : part = .here := by
  rw [start, if_neg relative] at h
  split at h
  · exact List.mem_singleton.mp h
  · cases h

/-- Without the slashes in front, a text starts with no slash. -/
theorem head?_dropWhile_slash_ne (cs : List Char) :
    (cs.dropWhile (· == '/')).head? ≠ some '/' := by
  intro slash
  have stopped := List.head?_dropWhile_not (· == '/') cs
  rw [slash] at stopped
  cases stopped

/-! ## Without the root -/

/-- A relative path is taken from where it starts already. -/
theorem withoutRoot_of_relative {p : Path} (relative : p.text.toList.head? ≠ some '/') :
    p.withoutRoot = p := by
  rw [withoutRoot]
  split
  · next rest starts =>
    rw [starts] at relative
    exact absurd rfl relative
  · rfl

/-- Parts that stand for no component may be left out at the front. -/
theorem filterMap_dropWhile_isIdle (pieces : List (List Char)) :
    (pieces.dropWhile isIdle).filterMap componentOf? = pieces.filterMap componentOf? := by
  induction pieces with
  | nil => rfl
  | cons piece pieces ih =>
    rw [List.dropWhile_cons]
    split
    · next idle => rw [ih, List.filterMap_cons_none (Option.isNone_iff_eq_none.mp idle)]
    · rfl

/-- Parts that stand for no component may be left out at both ends. -/
theorem filterMap_idle_ends (pieces : List (List Char)) :
    ((pieces.dropWhile isIdle).reverse.dropWhile isIdle).reverse.filterMap componentOf?
      = pieces.filterMap componentOf? := by
  rw [List.filterMap_reverse, filterMap_dropWhile_isIdle, List.filterMap_reverse,
    List.reverse_reverse, filterMap_dropWhile_isIdle]

/-- What is kept of parts begins with one that stands for a component. -/
theorem isIdle_eq_false_of_kept {pieces kept : List (List Char)} {part : List Char}
    (h : ((pieces.dropWhile isIdle).reverse.dropWhile isIdle).reverse = part :: kept) :
    isIdle part = false := by
  have front : part :: kept <+: pieces.dropWhile isIdle := by
    rw [← h, ← List.reverse_suffix, List.reverse_reverse]
    exact List.dropWhile_suffix isIdle
  obtain ⟨behind, shape⟩ := front
  have stopped := List.head?_dropWhile_not isIdle pieces
  rw [← shape] at stopped
  simpa using stopped

/-- A text whose first part stands for a component starts neither at the root nor with a dot. -/
theorem start_eq_nil {cs part : List Char} {others : List (List Char)}
    (split : splitSlash cs = part :: others) (filled : isIdle part = false) : start cs = [] := by
  have not_root : cs.head? ≠ some '/' := by
    intro slash
    obtain ⟨rest, rfl⟩ := List.head?_eq_some_iff.mp slash
    cases split
    cases filled
  have not_here : (splitSlash cs).head? ≠ some ['.'] := by
    intro here
    rw [split, List.head?_cons, Option.some_inj] at here
    subst here
    cases filled
  rw [start, if_neg not_root, if_neg not_here]

/-- **A path that starts at the root is taken from there part by part**: its parts are the
components of what it is then. -/
theorem components_withoutRoot {p : Path} (absolute : p.text.toList.head? = some '/') :
    p.withoutRoot.components = p.parts := by
  obtain ⟨rest, chars⟩ := List.head?_eq_some_iff.mp absolute
  have whole : p.parts = (splitSlash rest).filterMap componentOf? := by
    rw [parts, chars]
    rfl
  have left : p.withoutRoot = ⟨String.ofList (['/'].intercalate
      (((splitSlash rest).dropWhile isIdle).reverse.dropWhile isIdle).reverse)⟩ := by
    rw [withoutRoot, chars]
    rfl
  have ends := filterMap_idle_ends (splitSlash rest)
  rw [whole, left, components, String.toList_ofList]
  -- Where something is kept, it begins with a part that stands for a component.
  cases shape : (((splitSlash rest).dropWhile isIdle).reverse.dropWhile isIdle).reverse with
  | nil =>
    rw [shape] at ends
    rw [← ends]
    rfl
  | cons part kept =>
    have plain : ∀ piece ∈ part :: kept, '/' ∉ piece := by
      intro piece member
      rw [← shape, List.mem_reverse] at member
      have inner := List.mem_reverse.mp ((List.dropWhile_sublist isIdle).mem member)
      exact slash_not_mem_of_mem_splitSlash ((List.dropWhile_sublist isIdle).mem inner)
    have split := splitSlash_intercalate plain
    rw [start_eq_nil split (isIdle_eq_false_of_kept shape), split, ← shape, ends]
    rfl

example : (⟨"/./usr//lib/./"⟩ : Path).withoutRoot = ⟨"usr//lib"⟩ := by decide +kernel

/-- Taken from the root, a path does not start there. -/
theorem head?_withoutRoot_ne (p : Path) : p.withoutRoot.text.toList.head? ≠ some '/' := by
  by_cases absolute : p.text.toList.head? = some '/'
  · intro again
    have root_first : Component.root ∈ start p.withoutRoot.text.toList := by
      rw [start, if_pos again]
      exact List.mem_singleton_self _
    have root_part : Component.root ∈ p.parts := by
      rw [← components_withoutRoot absolute]
      exact List.mem_append_left _ root_first
    rcases up_or_name_of_mem_parts root_part with same | ⟨text, same⟩ <;> cases same
  · rw [withoutRoot_of_relative absolute]
    exact absolute

/-- Taken from the root, a path has no part that it did not have. -/
theorem mem_parts_of_withoutRoot {p : Path} {part : Component} (h : part ∈ p.withoutRoot.parts) :
    part ∈ p.parts := by
  by_cases absolute : p.text.toList.head? = some '/'
  · rw [← components_withoutRoot absolute]
    exact List.mem_append_right _ h
  · rwa [withoutRoot_of_relative absolute] at h

/-! ## Joining -/

/-- What stands behind a slash has no say in where a path starts. -/
theorem start_append (left right right' : List Char) :
    start (left ++ '/' :: right) = start (left ++ '/' :: right') := by
  obtain ⟨part, others, shape⟩ := List.exists_cons_of_ne_nil (splitSlash_ne_nil left)
  rw [start, start, splitSlash_append, splitSlash_append, shape]
  cases left <;> rfl

/-- A slash behind a path that is not empty does not change where it starts. -/
theorem start_append_slash {left : List Char} (filled : left ≠ []) (right : List Char) :
    start (left ++ '/' :: right) = start left := by
  obtain ⟨part, others, shape⟩ := List.exists_cons_of_ne_nil (splitSlash_ne_nil left)
  obtain ⟨c, cs, rfl⟩ := List.exists_cons_of_ne_nil filled
  rw [start, start, splitSlash_append, shape]
  rfl

/-- A path joined to the empty path is itself. -/
theorem join_of_empty {root : Path} (h : root.text = "") (dir : Path) : root.join dir = dir := by
  rw [join, h]
  show (⟨String.ofList (joinChars [] dir.text.toList)⟩ : Path) = dir
  rw [joinChars_nil_left, String.ofList_toList]

/-- A path joined from one that is not empty is not empty. -/
theorem join_ne_empty (root : Path) {dir : Path} (filled : dir.text ≠ "") :
    (root.join dir).text ≠ "" := by
  have dir_filled : dir.text.toList ≠ [] := fun none => filled (String.toList_eq_nil_iff.mp none)
  intro empty
  have none := String.toList_eq_nil_iff.mpr empty
  rw [join, String.toList_ofList, joinChars] at none
  split at none
  · exact dir_filled none
  · split at none
    · exact dir_filled (List.append_eq_nil_iff.mp none).2
    · cases (List.append_eq_nil_iff.mp none).2

/-- **The components of a joined path.**  A right side that does not start at the root adds its
parts to the components of the left side. -/
theorem components_join {root dir : Path} (filled : root.text ≠ "")
    (relative : dir.text.toList.head? ≠ some '/') :
    (root.join dir).components = root.components ++ dir.parts := by
  have filled_chars : root.text.toList ≠ [] := fun none => filled (String.toList_eq_nil_iff.mp none)
  rw [components, components, parts, join]
  simp only [String.toList_ofList]
  rw [joinChars, if_neg relative]
  -- A slash at the end of the root serves as the one between; the empty part before it is no step.
  by_cases slash : root.text.toList.getLast? = some '/'
  · rw [if_pos (Or.inr slash)]
    obtain ⟨left, shape⟩ := List.getLast?_eq_some_iff.mp slash
    have split : splitSlash (left ++ ['/']) = splitSlash left ++ [[]] := splitSlash_append left []
    have no_part : [[]].filterMap componentOf? = [] := rfl
    rw [shape, List.append_assoc, List.singleton_append, start_append left dir.text.toList [],
      splitSlash_append, split, List.filterMap_append, List.filterMap_append, no_part,
      List.append_nil, List.append_assoc]
  · rw [if_neg (by simp [filled_chars, slash]), start_append_slash filled_chars, splitSlash_append,
      List.filterMap_append, List.append_assoc]

/-! ## Entries -/

/-- What may name an entry of a directory: a text that is not empty, has no slash, and is neither
of the two names that every directory has anyway. -/
structure IsEntryName (name : String) : Prop where
  ne_empty : name ≠ ""
  no_slash : '/' ∉ name.toList
  ne_here : name ≠ "."
  ne_up : name ≠ ".."

/-- The name of an entry is one part. -/
theorem IsEntryName.parts {name : String} (h : IsEntryName name) :
    (⟨name⟩ : Path).parts = [.name name] := by
  have filled : name.toList ≠ [] := fun none => h.ne_empty (String.toList_eq_nil_iff.mp none)
  have not_here : name.toList ≠ ['.'] := fun here => h.ne_here (String.toList_inj.mp here)
  have not_up : name.toList ≠ ['.', '.'] := fun up => h.ne_up (String.toList_inj.mp up)
  rw [Path.parts, splitSlash_of_not_mem h.no_slash, List.filterMap_cons, componentOf?,
    if_neg (not_or.mpr ⟨filled, not_here⟩), if_neg not_up, String.ofList_toList]
  rfl

/-- **An entry lies one step below its directory.** -/
theorem components_entry {dir : Path} {name : String} (filled : dir.text ≠ "")
    (h : IsEntryName name) : (dir.entry name).components = dir.components ++ [.name name] := by
  have relative : name.toList.head? ≠ some '/' :=
    fun slash => h.no_slash (List.mem_of_mem_head? slash)
  rw [entry, components_join filled relative, h.parts]

/-! ## Staying below -/

/-- **A path stays within a root**: its components are those of the root, and then names only.
Where the root is the empty path, a leading `.` may come between. -/
def IsWithin (p root : Path) : Prop :=
  ∃ below, p.components = root.components ++ below
    ∧ ∀ part ∈ below, (∃ text, part = .name text) ∨ (part = .here ∧ root.text = "")

/-- An entry of a directory within a root is within the root. -/
theorem IsWithin.entry {dir root : Path} {name : String} (h : dir.IsWithin root)
    (filled : dir.text ≠ "") (is_name : IsEntryName name) : (dir.entry name).IsWithin root := by
  obtain ⟨below, shape, down⟩ := h
  refine ⟨below ++ [.name name], ?_, ?_⟩
  · rw [components_entry filled is_name, shape, List.append_assoc]
  · intro part member
    rcases List.mem_append.mp member with earlier | last
    · exact down part earlier
    · exact Or.inl ⟨name, List.mem_singleton.mp last⟩

/-- A relative path without `..` stays within the root that it is joined to. -/
theorem isWithin_join (root : Path) {dir : Path} (relative : dir.text.toList.head? ≠ some '/')
    (no_up : .up ∉ dir.parts) : (root.join dir).IsWithin root := by
  have names : ∀ part ∈ dir.parts, ∃ text, part = .name text := by
    intro part member
    rcases up_or_name_of_mem_parts member with rfl | is_name
    · exact absurd member no_up
    · exact is_name
  -- Below the empty root the directory stands alone, so that a leading `.` of it counts.
  by_cases empty : root.text = ""
  · have none : root.components = [] := by
      rw [components, empty]
      rfl
    refine ⟨dir.components, ?_, ?_⟩
    · rw [join_of_empty empty, none, List.nil_append]
    · intro part member
      rcases List.mem_append.mp member with first | later
      · exact Or.inr ⟨eq_here_of_mem_start relative first, empty⟩
      · exact Or.inl (names part later)
  · exact ⟨dir.parts, components_join empty relative, fun part member => Or.inl (names part member)⟩

end Path

end KernelCensus
