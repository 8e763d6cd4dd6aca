/-
# Directories of a machine

What a machine tells of a directory follows from where its path leads (`LeadsTo`): a directory that
a path leads to is listed by the names of its entries, in the order of their bytes, if all of them
are texts (`list_eq_ok_iff`), and it is empty if it has none (`isEmpty_eq_ok_iff`); other paths are
refused.  The path of an entry leads where the entry does from the location of its directory
(`leadsTo_entry_iff`).
-/
import KernelCensus.Proofs.Listing
import KernelCensus.Proofs.Walk

namespace KernelCensus

variable {α : Type}

namespace Node

/-- Reading a location on is reading from what is there. -/
theorem at?_append (node : Node α) (here rest : List EntryName) :
    node.at? (here ++ rest) = (node.at? here).bind fun child => child.at? rest := by
  induction here generalizing node with
  | nil => rfl
  | cons name here ih =>
    rw [List.cons_append, Node.at?, Node.at?]
    cases node.child? name with
    | none => rfl
    | some child => exact ih child

/-- An entry of a directory is found below its location. -/
theorem at?_concat {node : Node α} {here : List EntryName} {entries : List (EntryName × Node α)}
    (inside : node.at? here = some (.dir entries)) (name : EntryName) :
    node.at? (here ++ [name]) = entries.lookup name := by
  rw [at?_append, inside]
  show (entries.lookup name).bind some = _
  cases entries.lookup name <;> rfl

end Node

namespace Walk

/-- A path that can be walked at all. -/
structure IsWalkable (path : List UInt8) : Prop where
  no_zero : 0 ∉ path
  filled : path ≠ []
  short : path.length ≤ maxPath

/-- A path is refused unless it can be walked. -/
theorem checkPath_eq_ok_iff {path : List UInt8} : checkPath path = .ok () ↔ IsWalkable path := by
  rw [checkPath]
  by_cases zero : path.contains 0 = true
  · rw [if_pos zero]
    exact ⟨fun h => (by cases h), fun h => absurd (List.contains_iff_mem.mp zero) h.no_zero⟩
  · rw [if_neg zero]
    by_cases empty : path.isEmpty = true
    · rw [if_pos empty]
      exact ⟨fun h => (by cases h), fun h => absurd (List.isEmpty_iff.mp empty) h.filled⟩
    · rw [if_neg empty]
      by_cases long : maxPath < path.length
      · rw [if_pos long]
        exact ⟨fun h => (by cases h), fun h => absurd h.short (Nat.not_le.mpr long)⟩
      · rw [if_neg long]
        refine ⟨fun _ => ⟨?_, ?_, Nat.not_lt.mp long⟩, fun _ => rfl⟩
        · exact fun member => zero (List.contains_iff_mem.mpr member)
        · exact fun none => empty (List.isEmpty_iff.mpr none)

/-! ## Paths of entries -/

/-- Splitting at slashes yields at least one part. -/
theorem splitSlash_ne_nil (path : List UInt8) : splitSlash path ≠ [] := by
  cases path with
  | nil => simp [splitSlash]
  | cons b path =>
    rw [splitSlash]
    split
    · simp
    · split <;> simp

/-- A slash ends one part and begins the next. -/
theorem splitSlash_append (left right : List UInt8) :
    splitSlash (left ++ slash :: right) = splitSlash left ++ splitSlash right := by
  induction left with
  | nil => rfl
  | cons b left ih =>
    rw [List.cons_append, splitSlash, splitSlash, ih]
    by_cases parting : b = slash
    · rw [if_pos parting, if_pos parting, List.cons_append]
    · rw [if_neg parting, if_neg parting]
      cases shape : splitSlash left with
      | nil => exact absurd shape (splitSlash_ne_nil left)
      | cons part others => rfl

/-- A name is one part. -/
theorem splitSlash_of_not_mem {name : List UInt8} (h : slash ∉ name) :
    splitSlash name = [name] := by
  induction name with
  | nil => rfl
  | cons b name ih =>
    rw [List.mem_cons, not_or] at h
    rw [splitSlash, if_neg fun parting => h.1 parting.symm, ih h.2]

/-- The steps of the path of an entry: those of what stands before the slash, and the name. -/
theorem steps_entry (front : List UInt8) {name : EntryName} (proper : IsFileName name) :
    steps (front ++ slash :: name)
      = (splitSlash front).filter (fun part => !part.isEmpty) ++ [name] := by
  have filled : name.isEmpty = false := List.isEmpty_eq_false_iff.mpr proper.ne_nil
  have last : (front ++ slash :: name).getLast? ≠ some slash := by
    rw [List.getLast?_append_of_ne_nil _ (List.cons_ne_nil _ _),
      List.getLast?_cons_of_ne_nil proper.ne_nil]
    exact fun ends => proper.no_slash (List.mem_of_getLast? ends)
  rw [steps, if_neg last, List.append_nil, splitSlash_append, List.filter_append,
    splitSlash_of_not_mem proper.no_slash]
  simp [filled]

/-- The path of a directory and that of an entry of it start at the same place and take the same
steps, up to the name of the one and a step of the other that stays. -/
theorem exists_trail (here : List EntryName) {dir front : List UInt8} {name : EntryName}
    (filled : dir ≠ []) (proper : IsFileName name)
    (before : dir = front ∨ dir = front ++ [slash]) :
    ∃ trail tail, steps dir = trail ++ tail ∧ (tail = [] ∨ tail = [dot])
      ∧ steps (front ++ slash :: name) = trail ++ [name]
      ∧ start here (front ++ slash :: name) = start here dir := by
  refine ⟨(splitSlash front).filter fun part => !part.isEmpty, ?_⟩
  -- A slash at the end of the path of the directory is a last step that stays.
  rcases before with rfl | rfl
  · refine ⟨if dir.getLast? = some slash then [dot] else [], rfl, ?_, steps_entry dir proper, ?_⟩
    · split
      · exact Or.inr rfl
      · exact Or.inl rfl
    · obtain ⟨b, rest, rfl⟩ := List.exists_cons_of_ne_nil filled
      rfl
  · refine ⟨[dot], ?_, Or.inr rfl, steps_entry front proper, ?_⟩
    · rw [steps, splitSlash_append, List.filter_append, if_pos List.getLast?_concat]
      simp [splitSlash]
    · cases front <;> rfl

/-- A last step that stays changes nothing. -/
theorem Leads.of_tail {root : Node α} {links : Nat} {here trail tail there : List EntryName}
    (h : Leads root links here (trail ++ tail) there) (stays : tail = [] ∨ tail = [dot]) :
    Leads root links here trail there := by
  rcases stays with rfl | rfl
  · rwa [List.append_nil] at h
  · obtain ⟨first, more, next, rfl, leads, last⟩ := h.split rfl
    cases last with
    | step step onward =>
      cases step with
      | stay =>
        cases onward
        exact leads
      | enter _ named => exact absurd rfl named.ne_dot
      | follow _ named => exact absurd rfl named.ne_dot

/-! ## Entries -/

/-- What an entry of a directory at a location stands for: itself, or where its link leads from
there over fewer than so many links. -/
inductive StandsFor (root : Node α) (left : Nat) (here : List EntryName)
    (entries : List (EntryName × Node α)) (name : EntryName) : Node α → Prop
  | itself {node : Node α} (found : entries.lookup name = some node)
    (no_link : ∀ target, node ≠ .link target) : StandsFor root left here entries name node
  | linked {target : List UInt8} {links : Nat} {there : List EntryName} {node : Node α}
    (found : entries.lookup name = some (.link target)) (within : links < left)
    (leads : Leads root links (start here target) (steps target) there)
    (held : root.at? there = some node) : StandsFor root left here entries name node

/-- **The step to an entry leads to what the entry stands for**, unless its name is too long. -/
theorem leads_entry_iff {root : Node α} {here : List EntryName}
    {entries : List (EntryName × Node α)} {name : EntryName}
    (inside : root.at? here = some (.dir entries)) (proper : IsFileName name)
    (left : Nat) (node : Node α) :
    (∃ links ≤ left, ∃ there, Leads root links here [name] there ∧ root.at? there = some node)
      ↔ name.length ≤ maxName ∧ StandsFor root left here entries name node := by
  constructor
  · rintro ⟨_, within, there, leads, held⟩
    cases leads with
    | step first onward =>
      cases first with
      | stay => exact absurd rfl proper.ne_dot
      | up => exact absurd rfl proper.ne_dotDot
      | enter inside' named found no_link =>
        cases inside.symm.trans inside'
        cases onward
        rw [Node.at?_concat inside, found] at held
        cases held
        exact ⟨named.short, .itself found no_link⟩
      | follow inside' named found =>
        cases inside.symm.trans inside'
        rw [List.append_nil] at onward
        exact ⟨named.short, .linked found (by omega) onward held⟩
  · rintro ⟨short, stands⟩
    have named : IsNamed name := ⟨proper.ne_dot, proper.ne_dotDot, short⟩
    cases stands with
    | itself found no_link =>
      refine ⟨0 + 0, Nat.zero_le _, here ++ [name], ?_, by rw [Node.at?_concat inside, found]⟩
      exact .step (.enter inside named found no_link) (.arrive _)
    | @linked target links there _ found fewer leads held =>
      refine ⟨1 + links, by omega, there, .step (.follow inside named found) ?_, held⟩
      rwa [List.append_nil]

end Walk

namespace Machine

variable {machine : Machine α} {path : Path}

/-! ## Where paths lead -/

/-- A path leads to a location over so many links. -/
structure Reaches (machine : Machine α) (path : Path) (links : Nat) (there : List EntryName) :
    Prop where
  walkable : Walk.IsWalkable (Utf8.encode path.text)
  leads : Walk.Leads machine.root links (Walk.start machine.here (Utf8.encode path.text))
    (Walk.steps (Utf8.encode path.text)) there

/-- A path leads to a node, over no more links than may be followed. -/
def LeadsTo (machine : Machine α) (path : Path) (node : Node α) : Prop :=
  ∃ links ≤ Walk.maxLinks, ∃ there, machine.Reaches path links there
    ∧ machine.root.at? there = some node

/-- Walking finds the location that the rules tell. -/
theorem locate_eq_ok_iff {there : List EntryName} :
    Walk.locate machine.root machine.here (Utf8.encode path.text) = .ok there
      ↔ ∃ links ≤ Walk.maxLinks, machine.Reaches path links there := by
  rw [Walk.locate, Outcome.bind_eq_ok_iff]
  constructor
  · rintro ⟨⟨⟩, walkable, walked⟩
    obtain ⟨links, within, leads⟩ := Walk.along_eq_ok_iff.mp walked
    exact ⟨links, within, Walk.checkPath_eq_ok_iff.mp walkable, leads⟩
  · rintro ⟨links, within, walkable, leads⟩
    exact ⟨(), Walk.checkPath_eq_ok_iff.mpr walkable,
      Walk.along_eq_ok_iff.mpr ⟨links, within, leads⟩⟩

/-- **A machine finds what a path leads to.** -/
theorem node_eq_ok_iff {node : Node α} :
    machine.node path = .ok node ↔ machine.LeadsTo path node := by
  rw [Machine.node, nodeAt, Outcome.bind_eq_ok_iff]
  constructor
  · rintro ⟨there, located, found⟩
    obtain ⟨links, within, reaches⟩ := locate_eq_ok_iff.mp located
    refine ⟨links, within, there, reaches, ?_⟩
    split at found
    · next held => rw [held, Except.ok.inj found]
    · cases found
  · rintro ⟨links, within, there, reaches, held⟩
    refine ⟨there, locate_eq_ok_iff.mpr ⟨links, within, reaches⟩, ?_⟩
    rw [held]

/-- A path leads to one node only. -/
theorem LeadsTo.unique {node node' : Node α} (h : machine.LeadsTo path node)
    (h' : machine.LeadsTo path node') : node = node' := by
  have same := node_eq_ok_iff.mpr h
  rw [node_eq_ok_iff.mpr h'] at same
  exact (Except.ok.inj same).symm

/-! ## Emptiness -/

/-- **A directory is empty if it has no entries.**  What is no directory is refused. -/
theorem isEmpty_eq_ok_iff {empty : Bool} : machine.isEmpty path = .ok empty
    ↔ ∃ entries, machine.LeadsTo path (.dir entries) ∧ entries.isEmpty = empty := by
  rw [isEmpty, Outcome.bind_eq_ok_iff]
  constructor
  · rintro ⟨node, found, told⟩
    split at told
    · next entries => exact ⟨entries, node_eq_ok_iff.mp found, Except.ok.inj told⟩
    · cases told
  · rintro ⟨entries, leads, rfl⟩
    exact ⟨.dir entries, node_eq_ok_iff.mpr leads, rfl⟩

/-- The probe of a path that leads to no directory fails. -/
theorem exists_isEmpty_eq_error_iff : (∃ e, machine.isEmpty path = .error e)
    ↔ ∀ entries, ¬ machine.LeadsTo path (.dir entries) := by
  constructor
  · rintro ⟨e, failed⟩ entries leads
    cases failed.symm.trans (isEmpty_eq_ok_iff.mpr ⟨entries, leads, rfl⟩)
  · intro no_dir
    cases told : machine.isEmpty path with
    | error e => exact ⟨e, rfl⟩
    | ok empty =>
      obtain ⟨entries, leads, -⟩ := isEmpty_eq_ok_iff.mp told
      exact absurd leads (no_dir entries)

/-! ## Listings -/

/-- The name of an entry is shown as the text whose bytes it is. -/
theorem entryText_eq_ok_iff {directory : Path} {name : EntryName} {text : String} :
    entryText directory name = .ok text ↔ Utf8.encode text = name := by
  constructor
  · exact fun shown => Utf8.encode_of_decode (decode_of_entryText shown)
  · intro bytes
    rw [entryText, Utf8.decode_eq_ok_iff.mpr bytes]

/-- Names are shown as the texts whose bytes they are. -/
theorem mapM_entryText_eq_ok_iff {directory : Path} {names : List EntryName}
    {texts : List String} :
    names.mapM (entryText directory) = .ok texts ↔ texts.map Utf8.encode = names := by
  rw [Outcome.mapM_eq_ok_iff]
  simp only [entryText_eq_ok_iff, eq_comm (a := Utf8.encode _)]
  rw [← List.forall₂_map_right_iff, List.forall₂_eq_eq_eq, eq_comm]

/-- A name that is no text is invalid. -/
theorem kind_of_entryText_error {directory : Path} {name : EntryName} {e : IoError}
    (h : entryText directory name = .error e) : e.kind = .invalidData := by
  rw [entryText] at h
  split at h
  · cases h
  · cases h
    rfl

/-- **A directory is listed by the names of its entries**, in the order of their bytes, if all of
them are texts.  What is no directory is refused. -/
theorem list_eq_ok_iff {names : List String} : machine.list path = .ok names
    ↔ ∃ entries, machine.LeadsTo path (.dir entries)
      ∧ names.map Utf8.encode = sortedNames entries := by
  rw [list, Outcome.bind_eq_ok_iff]
  constructor
  · rintro ⟨node, found, shown⟩
    cases node with
    | dir entries =>
      exact ⟨entries, node_eq_ok_iff.mp found, mapM_entryText_eq_ok_iff.mp shown⟩
    | _ => cases shown
  · rintro ⟨entries, leads, bytes⟩
    exact ⟨.dir entries, node_eq_ok_iff.mpr leads, mapM_entryText_eq_ok_iff.mpr bytes⟩

/-- A directory that is not listed has a name that is no text, and is refused as invalid. -/
theorem kind_of_list_error {entries : List (EntryName × Node α)} {e : IoError}
    (leads : machine.LeadsTo path (.dir entries)) (h : machine.list path = .error e) :
    e.kind = .invalidData := by
  have shown : (sortedNames entries).mapM (entryText path) = .error e := by
    rw [← h, list, node_eq_ok_iff.mpr leads]
    rfl
  obtain ⟨-, name, -, -, -, refused⟩ := Outcome.mapM_eq_error_iff.mp shown
  exact kind_of_entryText_error refused

/-- The names in order are those of the entries. -/
theorem sortedNames_perm (entries : List (EntryName × Node α)) :
    (sortedNames entries).Perm (entries.map Prod.fst) :=
  List.mergeSort_perm _ _

/-- The names stand in the order of their bytes. -/
theorem pairwise_sortedNames (entries : List (EntryName × Node α)) :
    (sortedNames entries).Pairwise (· ≤ ·) := by
  have sorted : (sortedNames entries).Pairwise fun a b => decide (a ≤ b) = true := by
    refine List.pairwise_mergeSort ?_ ?_ _
    · intro a b c first second
      rw [decide_eq_true_eq] at first second ⊢
      exact List.le_trans first second
    · intro a b
      rw [Bool.or_eq_true, decide_eq_true_eq, decide_eq_true_eq]
      exact List.le_total a b
  exact sorted.imp fun ordered => of_decide_eq_true ordered

/-! ## Entries -/

/-- The bytes of the path of an entry: those of its directory, less a slash at their end, then a
slash and the name. -/
theorem exists_encode_entry {dir : Path} {name : String} (filled : dir.text ≠ "")
    (proper : Path.IsEntryName name) :
    ∃ front, Utf8.encode (dir.entry name).text = front ++ Walk.slash :: Utf8.encode name
      ∧ (Utf8.encode dir.text = front ∨ Utf8.encode dir.text = front ++ [Walk.slash]) := by
  have filled_chars : dir.text.toList ≠ [] := fun none => filled (String.toList_eq_nil_iff.mp none)
  have relative : name.toList.head? ≠ some '/' :=
    fun slash => proper.no_slash (List.mem_of_mem_head? slash)
  have slash_byte : Utf8.encodeChar '/' = [Walk.slash] := by decide
  rw [Path.entry, Path.join, Utf8.encode, String.toList_ofList, Path.joinChars, if_neg relative]
  -- Joining puts no second slash behind one that is there.
  by_cases slash : dir.text.toList.getLast? = some '/'
  · obtain ⟨front, shape⟩ := List.getLast?_eq_some_iff.mp slash
    refine ⟨front.flatMap Utf8.encodeChar, ?_, Or.inr ?_⟩
    · rw [if_pos (Or.inr slash), shape, List.append_assoc, List.flatMap_append,
        List.singleton_append, List.flatMap_cons, slash_byte]
      rfl
    · rw [Utf8.encode, shape, List.flatMap_append, List.flatMap_singleton, slash_byte]
  · refine ⟨Utf8.encode dir.text, ?_, Or.inl rfl⟩
    rw [if_neg (by simp [filled_chars, slash]), List.flatMap_append, List.flatMap_cons, slash_byte]
    rfl

/-- **The path of an entry leads on from where its directory is.** -/
theorem Reaches.entry_iff {name : String} {used all : Nat} {here there : List EntryName}
    (h : machine.Reaches path used here) (proper : IsFileName (Utf8.encode name)) :
    machine.Reaches (path.entry name) all there
      ↔ Walk.IsWalkable (Utf8.encode (path.entry name).text)
        ∧ ∃ more, all = used + more
          ∧ Walk.Leads machine.root more here [Utf8.encode name] there := by
  have filled : path.text ≠ "" := fun empty => h.walkable.filled (by rw [empty]; rfl)
  obtain ⟨front, bytes, before⟩ :=
    exists_encode_entry filled (proper.isEntryName (Utf8.decode_eq_ok_iff.mpr rfl))
  obtain ⟨trail, tail, steps, stays, steps_entry, start⟩ :=
    Walk.exists_trail machine.here h.walkable.filled proper before
  have base := h.leads
  rw [steps] at base
  have base := base.of_tail stays
  -- The walk to the entry begins like the one to the directory, which leads to one place only.
  constructor
  · rintro ⟨walkable, leads⟩
    refine ⟨walkable, ?_⟩
    rw [bytes, steps_entry, start] at leads
    obtain ⟨first, more, next, rfl, early, late⟩ := leads.split rfl
    obtain ⟨rfl, rfl⟩ := early.unique base
    exact ⟨more, rfl, late⟩
  · rintro ⟨walkable, more, rfl, late⟩
    refine ⟨walkable, ?_⟩
    rw [bytes, steps_entry, start]
    exact base.append late

/-- **The path of an entry leads to what the entry stands for**, unless it is too long or asks for
too many links. -/
theorem leadsTo_entry_iff {name : String} {used : Nat} {here : List EntryName}
    {entries : List (EntryName × Node α)} (h : machine.Reaches path used here)
    (within : used ≤ Walk.maxLinks) (inside : machine.root.at? here = some (.dir entries))
    (proper : IsFileName (Utf8.encode name)) (node : Node α) :
    machine.LeadsTo (path.entry name) node
      ↔ Walk.IsWalkable (Utf8.encode (path.entry name).text)
        ∧ (Utf8.encode name).length ≤ Walk.maxName
        ∧ Walk.StandsFor machine.root (Walk.maxLinks - used) here entries (Utf8.encode name)
          node := by
  rw [← Walk.leads_entry_iff inside proper]
  constructor
  · rintro ⟨all, all_within, there, reaches, held⟩
    obtain ⟨walkable, more, rfl, leads⟩ := (h.entry_iff proper).mp reaches
    exact ⟨walkable, more, by omega, there, leads, held⟩
  · rintro ⟨walkable, more, more_within, there, leads, held⟩
    have reaches := (h.entry_iff proper).mpr ⟨walkable, more, rfl, leads⟩
    exact ⟨used + more, by omega, there, reaches, held⟩

end Machine

end KernelCensus
