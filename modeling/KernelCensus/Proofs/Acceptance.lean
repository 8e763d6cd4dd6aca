/-
# Which settings are accepted

A document is accepted if each key that it sets passes the check of that key.  The text of a
directory is stripped of the blanks around it and then of the slashes before it; what is left is
kept as it stands, unless it is empty or one of the pieces between its slashes is `..`.  A command
is kept as it stands if its first word is not blank.  A file with settings gives those of its text,
or fails as its text does, with one context more (`accepts_document`).
-/
import KernelCensus.Proofs.Blank
import KernelCensus.Proofs.Settings
import KernelCensus.Proofs.Utf8

namespace KernelCensus

/-! ## Pieces -/

namespace Path

/-- The parts of a path are the pieces between its slashes. -/
theorem splitSlash_eq_splitOn (cs : List Char) : splitSlash cs = cs.splitOn '/' := by
  induction cs with
  | nil => rfl
  | cons c cs ih =>
    rw [splitSlash, List.splitOn_cons_eq_if_modifyHead, ← ih]
    by_cases slash : c = '/'
    · rw [if_pos slash, if_pos (beq_iff_eq.mpr slash)]
    · obtain ⟨part, parts, shape⟩ := List.exists_cons_of_ne_nil (splitSlash_ne_nil cs)
      rw [if_neg slash, if_neg (by simpa using slash), shape]
      rfl

/-- Only the piece `..` leads up. -/
theorem componentOf?_eq_up_iff {piece : List Char} :
    componentOf? piece = some .up ↔ piece = ['.', '.'] := by
  constructor
  · intro up
    rw [componentOf?] at up
    split at up
    · cases up
    · split at up
      · assumption
      · cases up
  · rintro rfl
    rfl

/-- A path leads up where one of its pieces is `..`. -/
theorem up_mem_parts_iff {p : Path} :
    .up ∈ p.parts ↔ ['.', '.'] ∈ p.text.toList.splitOn '/' := by
  rw [parts, List.mem_filterMap, splitSlash_eq_splitOn]
  constructor
  · rintro ⟨piece, member, up⟩
    rwa [← componentOf?_eq_up_iff.mp up]
  · intro member
    exact ⟨_, member, componentOf?_eq_up_iff.mpr rfl⟩

/-- A relative path has a component that leads up or to the root only where a piece is `..`. -/
theorem any_up_or_root_iff {p : Path} (relative : p.text.toList.head? ≠ some '/') :
    p.components.any (fun part => part == .up || part == .root) = true
      ↔ ['.', '.'] ∈ p.text.toList.splitOn '/' := by
  rw [← up_mem_parts_iff, List.any_eq_true]
  constructor
  · rintro ⟨part, member, leaves⟩
    rcases List.mem_append.mp member with first | later
    · rw [eq_here_of_mem_start relative first] at leaves
      cases leaves
    · rcases up_or_name_of_mem_parts later with rfl | ⟨text, rfl⟩
      · exact later
      · cases leaves
  · intro up
    exact ⟨.up, List.mem_append_right _ up, rfl⟩

end Path

namespace Settings

/-! ## Stripping -/

/-- The layers of a text: blanks, slashes, what is left of the text, and blanks again.  What the
blanks surround neither starts nor ends with one. -/
structure Layers (raw dir : String) (before front after : List Char) : Prop where
  split : raw.toList = before ++ (front ++ dir.toList) ++ after
  leading : ∀ c ∈ before, isBlank c = true
  trailing : ∀ c ∈ after, isBlank c = true
  trimmed : IsTrimmed (front ++ dir.toList)
  slashes : ∀ c ∈ front, c = '/'
  relative : dir.toList.head? ≠ some '/'

/-- **Stripping a text**: the blanks around it are taken off, and then all slashes before what is
left.  Neither is done again, though a slash may have stood before a blank. -/
def Strips (raw dir : String) : Prop :=
  ∃ before front after, Layers raw dir before front after

/-- What is left of a text starts with no slash. -/
theorem Strips.relative {raw dir : String} (h : Strips raw dir) : dir.toList.head? ≠ some '/' := by
  obtain ⟨before, front, after, layers⟩ := h
  exact layers.relative

/-- A text is stripped by trimming it and dropping slashes. -/
theorem strips_iff {raw dir : String} :
    Strips raw dir ↔ (trim raw).toList.dropWhile (· == '/') = dir.toList := by
  constructor
  · rintro ⟨before, front, after, layers⟩
    have core : trim raw = String.ofList (front ++ dir.toList) := by
      rw [trim_eq_iff, String.toList_ofList]
      exact ⟨layers.trimmed, before, after, layers.split, layers.leading, layers.trailing⟩
    have dropped : front.dropWhile (· == '/') = [] :=
      List.dropWhile_eq_nil_iff.mpr fun c member => beq_iff_eq.mpr (layers.slashes c member)
    rw [core, String.toList_ofList, List.dropWhile_append, dropped]
    exact List.dropWhile_beq_eq_self_of_head?_ne layers.relative
  · intro left
    obtain ⟨trimmed, before, after, split, leading, trailing⟩ := trim_eq_iff.mp (Eq.refl (trim raw))
    obtain ⟨front, core, slashes⟩ :
        ∃ front, (trim raw).toList = front ++ dir.toList ∧ ∀ c ∈ front, c = '/' := by
      refine ⟨(trim raw).toList.takeWhile (· == '/'), ?_, fun c member => ?_⟩
      · rw [← left, List.takeWhile_append_dropWhile]
      · exact beq_iff_eq.mp (List.mem_takeWhile_imp (p := (· == '/')) member)
    have relative : dir.toList.head? ≠ some '/' := by
      rw [← left]
      exact Path.head?_dropWhile_slash_ne _
    rw [core] at trimmed split
    exact ⟨before, front, after, ⟨split, leading, trailing, trimmed, slashes, relative⟩⟩

/-- Every text is stripped to exactly one. -/
theorem existsUnique_strips (raw : String) : ∃! dir, Strips raw dir := by
  refine ⟨String.ofList ((trim raw).toList.dropWhile (· == '/')), ?_, ?_⟩
  · show Strips raw _
    rw [strips_iff, String.toList_ofList]
  · intro dir strips
    rw [strips_iff.mp strips, String.ofList_toList]

/-! ## The two checks -/

/-- **The text of a directory is kept** once it is stripped, if something is left, and no piece of
it is `..`. -/
structure KeepsDir (raw : String) (dir : Path) : Prop where
  stripped : Strips raw dir.text
  filled : dir.text ≠ ""
  no_up : ['.', '.'] ∉ dir.text.toList.splitOn '/'

/-- **The text of a directory is refused** where nothing is left of it, or where what is left has a
piece `..`; then the text is reported as it was written. -/
inductive RefusesDir (raw : String) : SettingsError → Prop
  | empty (h : Strips raw "") : RefusesDir raw .emptyModulesDir
  | escaping {dir : String} (h : Strips raw dir) (up : ['.', '.'] ∈ dir.toList.splitOn '/') :
    RefusesDir raw (.escapingModulesDir raw)

/-- **A command names a program** if it has a first word with a character that is not blank. -/
def NamesProgram (words : List String) : Prop :=
  ∃ program ∈ words.head?, ∃ c ∈ program.toList, isBlank c = false

instance (words : List String) : Decidable (NamesProgram words) :=
  inferInstanceAs (Decidable (∃ program ∈ words.head?, ∃ c ∈ program.toList, isBlank c = false))

/-- What is stripped decides the check of a directory. -/
theorem checkModulesDir_of_strips {raw dir : String} (h : Strips raw dir) :
    checkModulesDir raw =
      if dir = "" then .error .emptyModulesDir
      else if ['.', '.'] ∈ dir.toList.splitOn '/' then .error (.escapingModulesDir raw)
      else .ok ⟨dir⟩ := by
  rw [checkModulesDir, strips_iff.mp h, String.ofList_toList]
  simp only [Path.any_up_or_root_iff (p := ⟨dir⟩) h.relative, String.isEmpty_iff]

/-- **A directory passes its check where its text is kept.** -/
theorem checkModulesDir_eq_ok_iff {raw : String} {dir : Path} :
    checkModulesDir raw = .ok dir ↔ KeepsDir raw dir := by
  obtain ⟨left, strips, only⟩ := existsUnique_strips raw
  rw [checkModulesDir_of_strips strips]
  constructor
  · intro passed
    split at passed
    · cases passed
    · next filled =>
      split at passed
      · cases passed
      · next no_up =>
        cases passed
        exact ⟨strips, filled, no_up⟩
  · rintro ⟨stripped, filled, no_up⟩
    obtain rfl := only dir.text stripped
    rw [if_neg filled, if_neg no_up]

example : checkModulesDir "  //usr//./lib/ .. /" = .ok ⟨"usr//./lib/ .. /"⟩ := by decide +kernel

/-- **A directory fails its check where its text is refused.** -/
theorem checkModulesDir_eq_error_iff {raw : String} {error : SettingsError} :
    checkModulesDir raw = .error error ↔ RefusesDir raw error := by
  obtain ⟨left, strips, only⟩ := existsUnique_strips raw
  rw [checkModulesDir_of_strips strips]
  constructor
  · intro failed
    split at failed
    · next empty =>
      cases failed
      exact .empty (empty ▸ strips)
    · split at failed
      · next up =>
        cases failed
        exact .escaping strips up
      · cases failed
  · intro refused
    cases refused with
    | empty stripped =>
      obtain rfl := only "" stripped
      rfl
    | @escaping dir stripped up =>
      obtain rfl := only dir stripped
      have filled : dir ≠ "" := by
        rintro rfl
        simp at up
      rw [if_neg filled, if_pos up]

/-- A command is kept as it stands if it names a program, and fails for that alone. -/
theorem checkHostReleaseCommand_eq (words : List String) :
    checkHostReleaseCommand words
      = if NamesProgram words then .ok words else .error .noProgram := by
  cases words with
  | nil => rfl
  | cons program arguments =>
    have blank_iff : (trim program).isEmpty = true ↔ ¬ NamesProgram (program :: arguments) := by
      rw [String.isEmpty_iff, trim_eq_empty_iff]
      simp [NamesProgram]
    rw [checkHostReleaseCommand]
    by_cases names : NamesProgram (program :: arguments)
    · rw [if_neg (blank_iff.not.mpr (not_not.mpr names)), if_pos names]
    · rw [if_pos (blank_iff.mpr names), if_neg names]

/-- **A command passes its check where it names a program, and is kept.** -/
theorem checkHostReleaseCommand_eq_ok_iff {words kept : List String} :
    checkHostReleaseCommand words = .ok kept ↔ NamesProgram words ∧ kept = words := by
  rw [checkHostReleaseCommand_eq]
  split <;> simp [*, eq_comm]

/-- A command fails its check where it names no program. -/
theorem checkHostReleaseCommand_eq_error_iff {words : List String} {error : SettingsError} :
    checkHostReleaseCommand words = .error error ↔ ¬ NamesProgram words ∧ error = .noProgram := by
  rw [checkHostReleaseCommand_eq]
  split <;> simp [*, eq_comm]

/-! ## Documents -/

/-- The directory that a document gives: the default one where the document sets none. -/
def GivesDir : Option String → Path → Prop
  | none, dir => dir = ⟨"lib/modules"⟩
  | some raw, dir => KeepsDir raw dir

/-- The command that a document gives: the default one where the document sets none. -/
def GivesCommand : Option (List String) → List String → Prop
  | none, kept => kept = ["uname", "-r"]
  | some words, kept => NamesProgram words ∧ kept = words

/-- **What a document gives**: its directory and its command, each for itself. -/
structure Gives (document : Document) (settings : Settings) : Prop where
  dir : GivesDir document.modulesDir settings.modulesDir
  command : GivesCommand document.hostReleaseCommand settings.hostReleaseCommand

/-- **Why a document is refused**: for its directory, or, where that is fine, for its command. -/
inductive Refused (document : Document) : SettingsError → Prop
  | dir {raw : String} {error : SettingsError} (set : document.modulesDir = some raw)
    (h : RefusesDir raw error) : Refused document error
  | command {words : List String} (set : document.hostReleaseCommand = some words)
    (dir_fine : ∃ dir, GivesDir document.modulesDir dir) (h : ¬ NamesProgram words) :
    Refused document .noProgram

/-- The directory of a document passes where it is given. -/
theorem elim_checkModulesDir_eq_ok_iff {set : Option String} {dir : Path} :
    set.elim (.ok ({} : Settings).modulesDir) checkModulesDir = .ok dir ↔ GivesDir set dir := by
  cases set with
  | none =>
    rw [Option.elim_none, GivesDir, Except.ok.injEq]
    exact eq_comm
  | some raw =>
    rw [Option.elim_some, GivesDir]
    exact checkModulesDir_eq_ok_iff

/-- The directory of a document fails where it is set to a text that is refused. -/
theorem elim_checkModulesDir_eq_error_iff {set : Option String} {error : SettingsError} :
    set.elim (.ok ({} : Settings).modulesDir) checkModulesDir = .error error
      ↔ ∃ raw, set = some raw ∧ RefusesDir raw error := by
  cases set with
  | none =>
    rw [Option.elim_none]
    simp
  | some raw =>
    rw [Option.elim_some, checkModulesDir_eq_error_iff]
    simp

/-- The command of a document passes where it is given. -/
theorem elim_checkHostReleaseCommand_eq_ok_iff {set : Option (List String)}
    {kept : List String} :
    set.elim (.ok ({} : Settings).hostReleaseCommand) checkHostReleaseCommand = .ok kept
      ↔ GivesCommand set kept := by
  cases set with
  | none =>
    rw [Option.elim_none, GivesCommand, Except.ok.injEq]
    exact eq_comm
  | some words =>
    rw [Option.elim_some, GivesCommand]
    exact checkHostReleaseCommand_eq_ok_iff

/-- The command of a document fails where it is set to words that name no program. -/
theorem elim_checkHostReleaseCommand_eq_error_iff {set : Option (List String)}
    {error : SettingsError} :
    set.elim (.ok ({} : Settings).hostReleaseCommand) checkHostReleaseCommand = .error error
      ↔ ∃ words, set = some words ∧ ¬ NamesProgram words ∧ error = .noProgram := by
  cases set with
  | none =>
    rw [Option.elim_none]
    simp
  | some words =>
    rw [Option.elim_some, checkHostReleaseCommand_eq_error_iff]
    simp

/-- The settings of a document are those that it gives. -/
theorem ofDocument_eq_ok_iff {document : Document} {settings : Settings} :
    ofDocument document = .ok settings ↔ Gives document settings := by
  rw [ofDocument_eq, Outcome.bind_eq_ok_iff]
  constructor
  · rintro ⟨dir, dir_checked, rest⟩
    obtain ⟨kept, command_checked, same⟩ := Outcome.bind_eq_ok_iff.mp rest
    cases same
    exact ⟨elim_checkModulesDir_eq_ok_iff.mp dir_checked,
      elim_checkHostReleaseCommand_eq_ok_iff.mp command_checked⟩
  · rintro ⟨dir_given, command_given⟩
    exact ⟨_, elim_checkModulesDir_eq_ok_iff.mpr dir_given, Outcome.bind_eq_ok_iff.mpr
      ⟨_, elim_checkHostReleaseCommand_eq_ok_iff.mpr command_given, rfl⟩⟩

/-- A document fails for the reason for which it is refused. -/
theorem ofDocument_eq_error_iff {document : Document} {error : SettingsError} :
    ofDocument document = .error error ↔ Refused document error := by
  rw [ofDocument_eq, Outcome.bind_eq_error_iff]
  constructor
  · rintro (dir_failed | ⟨dir, dir_checked, rest⟩)
    · obtain ⟨raw, set, refused⟩ := elim_checkModulesDir_eq_error_iff.mp dir_failed
      exact .dir set refused
    · rcases Outcome.bind_eq_error_iff.mp rest with command_failed | ⟨kept, -, made⟩
      · obtain ⟨words, set, no_name, rfl⟩ :=
          elim_checkHostReleaseCommand_eq_error_iff.mp command_failed
        exact .command set ⟨dir, elim_checkModulesDir_eq_ok_iff.mp dir_checked⟩ no_name
      · cases made
  · intro refused
    cases refused with
    | dir set refused => exact Or.inl (elim_checkModulesDir_eq_error_iff.mpr ⟨_, set, refused⟩)
    | command set dir_fine no_name =>
      obtain ⟨dir, dir_given⟩ := dir_fine
      exact Or.inr ⟨dir, elim_checkModulesDir_eq_ok_iff.mpr dir_given,
        Outcome.bind_eq_error_iff.mpr (Or.inl
          (elim_checkHostReleaseCommand_eq_error_iff.mpr ⟨_, set, no_name, rfl⟩))⟩

/-- A document is accepted where the text of its directory is kept, if it sets one, and its command
names a program, if it sets one. -/
theorem exists_ofDocument_eq_ok_iff {document : Document} :
    (∃ settings, ofDocument document = .ok settings)
      ↔ (∀ raw, document.modulesDir = some raw → ∃ dir, KeepsDir raw dir)
        ∧ ∀ words, document.hostReleaseCommand = some words → NamesProgram words := by
  constructor
  · rintro ⟨settings, accepted⟩
    obtain ⟨dir_given, command_given⟩ := ofDocument_eq_ok_iff.mp accepted
    constructor
    · intro raw set
      rw [set] at dir_given
      exact ⟨_, dir_given⟩
    · intro words set
      rw [set] at command_given
      exact command_given.1
  · rintro ⟨dir_fine, command_fine⟩
    have given : ∃ dir, GivesDir document.modulesDir dir := by
      cases set : document.modulesDir with
      | none => exact ⟨_, rfl⟩
      | some raw => exact dir_fine raw set
    have kept : ∃ command, GivesCommand document.hostReleaseCommand command := by
      cases set : document.hostReleaseCommand with
      | none => exact ⟨_, rfl⟩
      | some words => exact ⟨words, command_fine words set, rfl⟩
    obtain ⟨dir, dir_given⟩ := given
    obtain ⟨command, command_given⟩ := kept
    exact ⟨⟨dir, command⟩, ofDocument_eq_ok_iff.mpr ⟨dir_given, command_given⟩⟩

/-! ## Texts and files -/

/-- A text that spells a document fails for the reason for which the document is refused. -/
theorem ofText_eq_error_iff {reader : Reader} {text : String} {document : Document}
    {failure : Failure} (spelled : reader text = .ok document) :
    ofText reader text = .error failure
      ↔ ∃ error, Refused document error ∧ failure = .of (.settings error) := by
  rw [ofText, spelled]
  simp only [Outcome.mapError_eq_error_iff, ofDocument_eq_error_iff, eq_comm (a := failure)]

/-- A text that spells a document has the settings that the document gives. -/
theorem ofText_eq_ok_iff {reader : Reader} {text : String} {document : Document}
    {settings : Settings} (spelled : reader text = .ok document) :
    ofText reader text = .ok settings ↔ Gives document settings := by
  rw [ofText, spelled]
  exact Outcome.mapError_eq_ok_iff.trans ofDocument_eq_ok_iff

/-- A file that holds a text is read as the text, with one context more where that fails. -/
theorem load_of_text {reader : Reader} {read : Path → Except IoError (List UInt8)} {file : Path}
    {text : String} (holds : read file = .ok (Utf8.encode text)) :
    load reader read file
      = (ofText reader text).mapError (Failure.within s!"parsing config '{file.text}'") := by
  have decoded : textOfBytes (Utf8.encode text) = .ok text :=
    Outcome.mapError_eq_ok_iff.mpr (Utf8.decode_eq_ok_iff.mpr rfl)
  rw [load, holds, Outcome.ok_bind, decoded]

/-- **Which settings are accepted.**  A document is accepted where the text of its directory, if it
sets one, is kept and its command, if it sets one, names a program; it then gives both, and is
otherwise refused for the directory first.  A text is accepted as the document that it spells, and
a file as its text, a failure of which gets one context that names the file. -/
theorem accepts_document :
    (∀ document : Document,
      ((∃ settings, ofDocument document = .ok settings)
        ↔ (∀ raw, document.modulesDir = some raw → ∃ dir, KeepsDir raw dir)
          ∧ ∀ words, document.hostReleaseCommand = some words → NamesProgram words)
      ∧ (∀ settings, ofDocument document = .ok settings ↔ Gives document settings)
      ∧ ∀ error, ofDocument document = .error error ↔ Refused document error)
    ∧ (∀ (reader : Reader) (text : String) (document : Document), reader text = .ok document →
      (∀ settings, ofText reader text = .ok settings ↔ Gives document settings)
      ∧ ∀ failure, ofText reader text = .error failure
        ↔ ∃ error, Refused document error ∧ failure = .of (.settings error))
    ∧ (∀ raw, (SettingsError.escapingModulesDir raw).message
        = "modules_dir contains invalid traversal/root component in '" ++ raw ++ "'")
    ∧ ∀ (reader : Reader) (read : Path → Except IoError (List UInt8)) (file : Path)
      (text : String), read file = .ok (Utf8.encode text) →
      (∀ settings, load reader read file = .ok settings ↔ ofText reader text = .ok settings)
      ∧ ∀ failure, load reader read file = .error failure
        ↔ ∃ inner, ofText reader text = .error inner ∧ failure.root = inner.root
          ∧ failure.contexts = ("parsing config '" ++ file.text ++ "'") :: inner.contexts := by
  refine ⟨?_, ?_, ?_, ?_⟩
  · intro document
    exact ⟨exists_ofDocument_eq_ok_iff, fun _ => ofDocument_eq_ok_iff,
      fun _ => ofDocument_eq_error_iff⟩
  · intro reader text document spelled
    exact ⟨fun _ => ofText_eq_ok_iff spelled, fun _ => ofText_eq_error_iff spelled⟩
  · intro raw
    rfl
  · intro reader read file text holds
    rw [load_of_text holds]
    refine ⟨fun _ => Outcome.mapError_eq_ok_iff, fun failure => ?_⟩
    rw [Outcome.mapError_eq_error_iff]
    constructor
    · rintro ⟨inner, failed, rfl⟩
      exact ⟨inner, failed, rfl, rfl⟩
    · rintro ⟨inner, failed, same_root, one_more⟩
      refine ⟨inner, failed, ?_⟩
      obtain ⟨contexts, root⟩ := failure
      cases same_root
      cases one_more
      rfl

end Settings

end KernelCensus
