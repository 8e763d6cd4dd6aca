/-
# Settings that pass their checks

Settings are the default ones, or those of a document, which may be given as a text or in a file.
However they came about, their module directory is a relative path, not empty and without a part
`..` (`Obtained.safe`).  What becomes of a file is said case by case (`load_loads`).
-/
import KernelCensus.Proofs.Outcome
import KernelCensus.Proofs.Path
import KernelCensus.Proofs.Utf8
import KernelCensus.Settings.Basic

namespace KernelCensus

namespace Settings

/-! ## Where settings come from -/

/-- The ways in which settings are obtained. -/
inductive Obtained : Settings → Prop
  | default : Obtained {}
  | document {document : Document} {settings : Settings} (h : ofDocument document = .ok settings) :
    Obtained settings
  | text {reader : Reader} {text : String} {settings : Settings}
    (h : ofText reader text = .ok settings) : Obtained settings
  | file {reader : Reader} {read : Path → Except IoError (List UInt8)} {file : Path}
    {settings : Settings} (h : load reader read file = .ok settings) : Obtained settings

/-- A reader that knows the given texts and no others. -/
def readerOf (known : List (String × Document)) : Reader := fun text =>
  match known.lookup text with
  | some document => .ok document
  | none => .error { message := "no such text" }

/-- What becomes of the settings in a file.  It cannot be read, or its bytes are no text, or the
text spells no document, or the document that it spells is checked; each failure says in one context
what was done with which file. -/
inductive Loads (reader : Reader) (read : Path → Except IoError (List UInt8)) (file : Path) :
    Except Failure Settings → Prop
  | unread {error : IoError} (failed : read file = .error error) :
    Loads reader read file (.error ⟨["reading config '" ++ file.text ++ "'"], .io error⟩)
  | notText {bytes : List UInt8} (held : read file = .ok bytes)
    (foreign : ∀ text, bytes ≠ Utf8.encode text) :
    Loads reader read file (.error ⟨["reading config '" ++ file.text ++ "'"],
      .io { kind := .invalidData, message := "stream did not contain valid UTF-8" }⟩)
  | notDocument {text : String} {report : Cause} (held : read file = .ok (Utf8.encode text))
    (refused : reader text = .error report) :
    Loads reader read file
      (.error ⟨["parsing config '" ++ file.text ++ "'"], .document report⟩)
  | document {text : String} {document : Document} (held : read file = .ok (Utf8.encode text))
    (spelled : reader text = .ok document) :
    Loads reader read file ((ofDocument document).mapError fun error =>
      ⟨["parsing config '" ++ file.text ++ "'"], .settings error⟩)

/-- **What becomes of the settings in a file.** -/
theorem load_loads (reader : Reader) (read : Path → Except IoError (List UInt8)) (file : Path) :
    Loads reader read file (load reader read file) := by
  rw [load]
  cases held : read file with
  | error error => exact .unread held
  | ok bytes =>
    rw [Outcome.ok_bind]
    cases decoded : textOfBytes bytes with
    | error error =>
      obtain ⟨fault, broken, rfl⟩ := Outcome.mapError_eq_error_iff.mp decoded
      refine .notText held ?_
      rintro text rfl
      cases (Utf8.decode_eq_ok_iff.mpr rfl).symm.trans broken
    | ok text =>
      obtain rfl := Utf8.decode_eq_ok_iff.mp (Outcome.mapError_eq_ok_iff.mp decoded)
      simp only [ofText]
      cases spelled : reader text with
      | error report => exact .notDocument held spelled
      | ok document =>
        simp only [Outcome.mapError_mapError]
        exact .document held spelled

/-- Settings in a file are those of a text. -/
theorem ofText_of_load {reader : Reader} {read : Path → Except IoError (List UInt8)} {file : Path}
    {settings : Settings} (h : load reader read file = .ok settings) :
    ∃ text, ofText reader text = .ok settings := by
  rw [load] at h
  split at h
  · cases h
  · next text readable =>
    exact ⟨text, Outcome.mapError_eq_ok_iff.mp h⟩

/-- Settings of a text are those of the document that it spells. -/
theorem ofDocument_of_ofText {reader : Reader} {text : String} {settings : Settings}
    (h : ofText reader text = .ok settings) :
    ∃ document, reader text = .ok document ∧ ofDocument document = .ok settings := by
  rw [ofText] at h
  split at h
  · cases h
  · next document spelled =>
    exact ⟨document, spelled, Outcome.mapError_eq_ok_iff.mp h⟩

/-- The settings of a document: each key is checked if it is set, the directory first. -/
theorem ofDocument_eq (document : Document) :
    ofDocument document
      = (document.modulesDir.elim (.ok ({} : Settings).modulesDir) checkModulesDir
        >>= fun modulesDir =>
          document.hostReleaseCommand.elim (.ok ({} : Settings).hostReleaseCommand)
            checkHostReleaseCommand
          >>= fun hostReleaseCommand => .ok { modulesDir, hostReleaseCommand }) := by
  obtain ⟨dir, command⟩ := document
  -- The checks are kept closed: unfolded, they compare texts.
  cases dir with
  | none =>
    cases command with
    | none => rfl
    | some words =>
      rw [ofDocument]
      simp only [Option.elim]
      cases checkHostReleaseCommand words <;> rfl
  | some raw =>
    rw [ofDocument]
    simp only [Option.elim]
    cases checkModulesDir raw with
    | error e => rfl
    | ok dir =>
      cases command with
      | none => rfl
      | some words =>
        simp only
        cases checkHostReleaseCommand words <;> rfl

/-- The module directory of accepted settings is the default one, unless the document sets it. -/
theorem modulesDir_of_ofDocument {document : Document} {settings : Settings}
    (h : ofDocument document = .ok settings) :
    document.modulesDir.elim (.ok ({} : Settings).modulesDir) checkModulesDir
      = .ok settings.modulesDir := by
  rw [ofDocument_eq] at h
  obtain ⟨dir, dir_checked, rest⟩ := Outcome.bind_eq_ok_iff.mp h
  obtain ⟨command, -, same⟩ := Outcome.bind_eq_ok_iff.mp rest
  cases same
  exact dir_checked

/-! ## The module directory -/

/-- A module directory that cannot lead out of an image: a relative path, not empty, that never
goes up. -/
structure IsSafe (dir : Path) : Prop where
  filled : dir.text ≠ ""
  relative : dir.text.toList.head? ≠ some '/'
  no_up : .up ∉ dir.parts

/-- The default directory is safe. -/
theorem isSafe_default : IsSafe ({} : Settings).modulesDir :=
  ⟨by decide, by decide, by decide⟩

/-- **A directory that passes its check is safe.** -/
theorem isSafe_of_checkModulesDir {raw : String} {dir : Path} (h : checkModulesDir raw = .ok dir) :
    IsSafe dir := by
  simp only [checkModulesDir] at h
  split at h
  · cases h
  · next filled =>
    split at h
    · cases h
    · next no_escape =>
      have same := Except.ok.inj h
      subst same
      refine ⟨?_, ?_, ?_⟩
      · intro empty
        exact filled (String.isEmpty_iff.mpr empty)
      · rw [String.toList_ofList]
        exact Path.head?_dropWhile_slash_ne _
      · intro up
        apply no_escape
        exact List.any_eq_true.mpr ⟨.up, List.mem_append_right _ up, rfl⟩

/-- The module directory of the settings of a document is safe. -/
theorem isSafe_of_ofDocument {document : Document} {settings : Settings}
    (h : ofDocument document = .ok settings) : IsSafe settings.modulesDir := by
  have dir_checked := modulesDir_of_ofDocument h
  cases set : document.modulesDir with
  | none =>
    rw [set, Option.elim_none] at dir_checked
    rw [← Except.ok.inj dir_checked]
    exact isSafe_default
  | some raw =>
    rw [set, Option.elim_some] at dir_checked
    exact isSafe_of_checkModulesDir dir_checked

/-- **However settings are obtained, their module directory is safe.** -/
theorem Obtained.safe {settings : Settings} (h : Obtained settings) :
    IsSafe settings.modulesDir := by
  cases h with
  | default => exact isSafe_default
  | document checked => exact isSafe_of_ofDocument checked
  | text spelled =>
    obtain ⟨document, -, checked⟩ := ofDocument_of_ofText spelled
    exact isSafe_of_ofDocument checked
  | file loaded =>
    obtain ⟨text, spelled⟩ := ofText_of_load loaded
    obtain ⟨document, -, checked⟩ := ofDocument_of_ofText spelled
    exact isSafe_of_ofDocument checked

end Settings

end KernelCensus
