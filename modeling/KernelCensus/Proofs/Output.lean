/-
# Outputs of commands

The commands about an image print lines, and the lines can be read back.  No release holds a tab or
a line feed, so the output of `versions` is a table that falls into its cells in one way only
(`table_lines`): the versions and the names of the kernels, in the order of the scan.  The other
commands agree with it: `list` prints the names, `oldest` prints the first line that no other line
is lower than, and `check` succeeds where a name is listed (`outputs_agree`).
-/
import KernelCensus.Proofs.Display
import KernelCensus.Proofs.Printing

namespace KernelCensus

/-! ## Tables -/

section Table

variable {α : Type}

/-- The lines of an output, each of which ends with a line feed. -/
def readLines (output : String) : List String :=
  ((output.toList.splitOn '\n').dropLast).map String.ofList

/-- The columns of a line, with a tab between two of them. -/
def columns (text : String) : List String :=
  (text.toList.splitOn '\t').map String.ofList

/-- The cells of an output, line by line. -/
def table (output : String) : List (List String) :=
  (readLines output).map columns

/-- A text that can be a cell: one without tabs and line feeds. -/
structure IsCell (text : String) : Prop where
  no_tab : '\t' ∉ text.toList
  no_feed : '\n' ∉ text.toList

/-- A row of two cells. -/
def row (cells : String × String) : String :=
  cells.1 ++ "\t" ++ cells.2

/-- Lines one after the other. -/
def Command.lines (texts : List String) : String :=
  String.join texts

/-- The characters of a line. -/
theorem toList_line (text : String) : (Command.line text).toList = text.toList ++ ['\n'] := by
  rw [Command.line, String.toList_append]
  rfl

/-- The characters of a row. -/
theorem toList_row (cells : String × String) :
    (row cells).toList = cells.1.toList ++ '\t' :: cells.2.toList := by
  rw [row, String.toList_append, String.toList_append, List.append_assoc]
  rfl

/-- **Lines can be read back**, if no line feed stands in one. -/
theorem readLines_lines {texts : List String} (h : ∀ text ∈ texts, '\n' ∉ text.toList) :
    readLines (Command.lines (texts.map Command.line)) = texts := by
  induction texts with
  | nil => rfl
  | cons text texts ih =>
    rw [List.forall_mem_cons] at h
    have behind := ih h.2
    rw [readLines, Command.lines] at behind ⊢
    rw [List.map_cons, String.join_cons, String.toList_append, toList_line, List.append_assoc,
      List.singleton_append, List.splitOn_append_cons_self_of_not_mem h.1,
      List.dropLast_cons_of_ne_nil (List.splitOn_ne_nil _ _), List.map_cons, behind,
      String.ofList_toList]

/-- A row has its two cells as columns. -/
theorem columns_row {cells : String × String} (first : IsCell cells.1) (second : IsCell cells.2) :
    columns (row cells) = [cells.1, cells.2] := by
  rw [columns, toList_row, List.splitOn_append_cons_self_of_not_mem first.no_tab,
    List.splitOn_eq_singleton second.no_tab]
  simp

/-- A row of two cells is a line. -/
theorem feed_not_mem_row {cells : String × String} (first : IsCell cells.1)
    (second : IsCell cells.2) : '\n' ∉ (row cells).toList := by
  rw [toList_row, List.mem_append, List.mem_cons]
  rintro (inside | tab | inside)
  · exact first.no_feed inside
  · cases tab
  · exact second.no_feed inside

section Rows

variable {rows : List (String × String)} (cells : ∀ pair ∈ rows, IsCell pair.1 ∧ IsCell pair.2)

include cells

/-- Rows of two cells are lines. -/
theorem readLines_rows :
    readLines (Command.lines (rows.map fun pair => Command.line (row pair))) = rows.map row := by
  have no_feed : ∀ text ∈ rows.map row, '\n' ∉ text.toList := by
    intro text member
    obtain ⟨pair, among, rfl⟩ := List.mem_map.mp member
    exact feed_not_mem_row (cells pair among).1 (cells pair among).2
  have read := readLines_lines no_feed
  rw [List.map_map] at read
  exact read

/-- **Rows of two cells can be read back.** -/
theorem table_lines : table (Command.lines (rows.map fun pair => Command.line (row pair)))
    = rows.map fun pair => [pair.1, pair.2] := by
  rw [table, readLines_rows cells, List.map_map]
  apply List.map_congr_left
  intro pair among
  exact columns_row (cells pair among).1 (cells pair among).2

end Rows

/-- A table of two kernels, of which the first is level with the second. -/
example : table "6.8\t6.8-rc1\n6.8.0\t6.8.0-48\n"
    = [["6.8", "6.8-rc1"], ["6.8.0", "6.8.0-48"]] := by decide +kernel

/-- Rows of two cells that print alike are the same. -/
theorem rows_unique {rows rows' : List (String × String)}
    (cells : ∀ pair ∈ rows, IsCell pair.1 ∧ IsCell pair.2)
    (cells' : ∀ pair ∈ rows', IsCell pair.1 ∧ IsCell pair.2)
    (same : Command.lines (rows.map fun pair => Command.line (row pair))
      = Command.lines (rows'.map fun pair => Command.line (row pair))) : rows = rows' := by
  have read := table_lines cells
  rw [same, table_lines cells'] at read
  have injective : Function.Injective fun pair : String × String => [pair.1, pair.2] := by
    rintro ⟨first, second⟩ ⟨first', second'⟩ alike
    simpa using alike
  exact (List.map_injective_iff.mpr injective read).symm

/-- Lines print nothing only where there are none. -/
theorem lines_eq_empty_iff (f : α → String) (as : List α) :
    Command.lines (as.map fun a => Command.line (f a)) = "" ↔ as = [] := by
  cases as with
  | nil => exact ⟨fun _ => rfl, fun _ => rfl⟩
  | cons a as =>
    rw [Command.lines, List.map_cons, String.join_cons, String.append_eq_empty_iff, Command.line,
      String.append_eq_empty_iff]
    constructor
    · rintro ⟨⟨-, no_feed⟩, -⟩
      exact absurd no_feed (by decide)
    · intro none
      cases none

end Table

/-! ## Kernels in lines -/

/-- A kernel whose version is the one that is read off its name. -/
def Kernel.IsRead (kernel : Kernel) : Prop :=
  Version.ofName kernel.name = .ok kernel.version

/-- The cells of the line of a kernel. -/
def Kernel.cells (kernel : Kernel) : String × String :=
  (kernel.version.text, kernel.name)

/-- The version that a line names in its first column; of a line that names none, the empty one. -/
def lineVersion (text : String) : Version :=
  ((columns text).head?.bind Version.ofRelease?).getD ⟨[]⟩

/-- **What is read as a version can be a cell**: a release holds neither a tab nor a line feed. -/
theorem isCell_of_ofName {text : String} {version : Version}
    (read : Version.ofName text = .ok version) : IsCell text := by
  obtain ⟨groups, tag, spells, -⟩ := Release.exists_spells_of_ofName read
  have inked : ∀ c ∈ text.toList, isBlank c = false := by
    intro c inside
    exact (spells.inTag c inside).not_blank
  constructor
  · intro tab
    cases inked _ tab
  · intro feed
    cases inked _ feed

namespace Kernel.IsRead

variable {kernel : Kernel}

/-- The text of the version of such a kernel is read as the version. -/
theorem ofName_text (h : kernel.IsRead) : Version.ofName kernel.version.text = .ok kernel.version :=
  Release.ofName_text (Release.segments_ne_nil_of_ofName h)

/-- The version and the name of such a kernel can be cells. -/
theorem isCell (h : kernel.IsRead) : IsCell kernel.cells.1 ∧ IsCell kernel.cells.2 :=
  ⟨isCell_of_ofName h.ofName_text, isCell_of_ofName h⟩

/-- The line of such a kernel names its version. -/
theorem lineVersion_row (h : kernel.IsRead) : lineVersion (row kernel.cells) = kernel.version := by
  have read : Version.ofRelease? kernel.cells.1 = some kernel.version :=
    Version.ofName_eq_ok_iff.mp h.ofName_text
  rw [lineVersion, columns_row h.isCell.1 h.isCell.2, List.head?_cons, Option.bind_some, read,
    Option.getD_some]

end Kernel.IsRead

section Kernels

variable {kernels : List Kernel} (read : ∀ kernel ∈ kernels, kernel.IsRead)

include read

/-- The cells of read kernels are cells. -/
theorem isCell_cells : ∀ pair ∈ kernels.map Kernel.cells, IsCell pair.1 ∧ IsCell pair.2 := by
  intro pair member
  obtain ⟨kernel, among, rfl⟩ := List.mem_map.mp member
  exact (read kernel among).isCell

/-- The lines of read kernels have their versions and names as columns. -/
theorem table_kernels : table (Command.lines (kernels.map Command.kernelLine))
    = kernels.map fun kernel => [kernel.version.text, kernel.name] := by
  have rows := table_lines (isCell_cells read)
  rw [List.map_map, List.map_map] at rows
  exact rows

/-- No other rows print what the lines of read kernels print. -/
theorem eq_cells_of_lines {rows : List (String × String)}
    (cells : ∀ pair ∈ rows, IsCell pair.1 ∧ IsCell pair.2)
    (same : Command.lines (rows.map fun pair => Command.line (row pair))
      = Command.lines (kernels.map Command.kernelLine)) : rows = kernels.map Kernel.cells := by
  apply rows_unique cells (isCell_cells read)
  rw [same, List.map_map]
  rfl

/-- The lines of read kernels are their rows. -/
theorem readLines_kernels : readLines (Command.lines (kernels.map Command.kernelLine))
    = kernels.map fun kernel => row kernel.cells := by
  have rows := readLines_rows (isCell_cells read)
  rw [List.map_map, List.map_map] at rows
  exact rows

/-- The names of read kernels are lines. -/
theorem readLines_names : readLines (Command.lines ((kernels.map Kernel.name).map Command.line))
    = kernels.map Kernel.name := by
  apply readLines_lines
  intro text member
  obtain ⟨kernel, among, rfl⟩ := List.mem_map.mp member
  exact (read kernel among).isCell.2.no_feed

/-- The line of the first oldest of read kernels is the first oldest of their lines. -/
theorem isFirstOldest_row {kernel : Kernel} (oldest : IsFirstOldest Kernel.version kernels kernel) :
    IsFirstOldest lineVersion (kernels.map fun kernel => row kernel.cells) (row kernel.cells) := by
  apply IsFirstOldest.map
  apply oldest.congr
  intro other member
  exact (read other member).lineVersion_row.symm

end Kernels

/-! ## What commands print -/

namespace Command

/-- What the command of a word prints about the image at a root. -/
def printed (settings : Settings) (surroundings : Surroundings) (root word : String) :
    Except Failure String :=
  (dispatch settings surroundings [word, root]).outcome

/-- Asking and then printing succeeds where asking does, with what is shown of the answer. -/
theorem outcome_shown_eq_ok_iff {α : Type} {command : Command} {asked : Traced QueryError α}
    {shown : α → Printing Unit} {text : α → String} (prints : ∀ a, shown a = ⟨pure (), text a⟩)
    {output : String} : (command.asking asked >>= shown).collected.outcome = .ok output
      ↔ ∃ a, asked.outcome = .ok a ∧ text a = output := by
  rw [asking, Printing.silent_bind_of_prints _ prints]
  obtain ⟨outcome, log, calls⟩ := asked
  cases outcome <;> simp [Printing.collected, Traced.mapError, Except.mapError, Except.map]

section Printed

variable (settings : Settings) (surroundings : Surroundings) (root : String)

/-- `list` prints the names that the scan keeps. -/
theorem printed_list_eq_ok_iff {output : String} :
    printed settings surroundings root "list" = .ok output
      ↔ ∃ names, (settings.moduleTree.names surroundings.directories ⟨root⟩).outcome = .ok names
        ∧ lines (names.map line) = output :=
  outcome_shown_eq_ok_iff (Printing.printEach_eq line)

/-- `versions` prints the kernels. -/
theorem printed_versions_eq_ok_iff {output : String} :
    printed settings surroundings root "versions" = .ok output
      ↔ ∃ kernels,
        (settings.moduleTree.kernels surroundings.directories ⟨root⟩).outcome = .ok kernels
        ∧ lines (kernels.map kernelLine) = output :=
  outcome_shown_eq_ok_iff (Printing.printEach_eq kernelLine)

/-- `oldest` prints the oldest kernel. -/
theorem printed_oldest_eq_ok_iff {output : String} :
    printed settings surroundings root "oldest" = .ok output
      ↔ ∃ kernel,
        (settings.moduleTree.oldest surroundings.directories ⟨root⟩).outcome = .ok kernel
        ∧ kernelLine kernel = output :=
  outcome_shown_eq_ok_iff fun _ => rfl

/-- `check` prints that it has found something. -/
theorem printed_check_eq_ok_iff {output : String} :
    printed settings surroundings root "check" = .ok output
      ↔ ∃ present,
        (settings.moduleTree.checkPresent surroundings.directories ⟨root⟩).outcome = .ok present
        ∧ line ("  [OK] kernel installed in " ++ root) = output :=
  outcome_shown_eq_ok_iff fun _ => rfl

/-- Where `versions` succeeds, its output is a table of kernels, and their names are listed. -/
theorem table_of_printed_versions {output : String}
    (succeeded : printed settings surroundings root "versions" = .ok output) : ∃ kernels,
      (settings.moduleTree.kernels surroundings.directories ⟨root⟩).outcome = .ok kernels
      ∧ table output = kernels.map (fun kernel => [kernel.version.text, kernel.name])
      ∧ (∀ rows, (∀ pair ∈ rows, IsCell pair.1 ∧ IsCell pair.2) →
        lines (rows.map fun pair => line (row pair)) = output → rows = kernels.map Kernel.cells)
      ∧ (∀ kernel ∈ kernels, kernel.IsRead)
      ∧ ∃ listed, printed settings surroundings root "list" = .ok listed
        ∧ readLines listed = kernels.map Kernel.name := by
  obtain ⟨kernels, found, rfl⟩ :=
    (printed_versions_eq_ok_iff settings surroundings root).mp succeeded
  obtain ⟨scanned, read⟩ :=
    settings.moduleTree.names_of_outcome_kernels surroundings.directories ⟨root⟩ found
  refine ⟨kernels, found, table_kernels read, ?_, read, ?_⟩
  · intro rows cells same
    exact eq_cells_of_lines read cells same
  · refine ⟨lines ((kernels.map Kernel.name).map line), ?_, readLines_names read⟩
    exact (printed_list_eq_ok_iff settings surroundings root).mpr ⟨_, scanned, rfl⟩

/-- `oldest` succeeds where `versions` prints a line. -/
theorem exists_printed_oldest_iff :
    (∃ output, printed settings surroundings root "oldest" = .ok output)
      ↔ ∃ output, printed settings surroundings root "versions" = .ok output ∧ output ≠ "" := by
  have resolved_iff : (∃ output, printed settings surroundings root "oldest" = .ok output)
      ↔ ∃ kernel,
        (settings.moduleTree.oldest surroundings.directories ⟨root⟩).outcome = .ok kernel := by
    simp only [printed_oldest_eq_ok_iff]
    constructor
    · rintro ⟨output, kernel, found, -⟩
      exact ⟨kernel, found⟩
    · rintro ⟨kernel, found⟩
      exact ⟨_, kernel, found, rfl⟩
  rw [resolved_iff, ModuleTree.exists_outcome_oldest_iff]
  constructor
  · rintro ⟨kernels, found, some_kernel⟩
    refine ⟨_, (printed_versions_eq_ok_iff settings surroundings root).mpr ⟨_, found, rfl⟩, ?_⟩
    exact (lines_eq_empty_iff _ _).not.mpr some_kernel
  · rintro ⟨output, succeeded, filled⟩
    obtain ⟨kernels, found, rfl⟩ :=
      (printed_versions_eq_ok_iff settings surroundings root).mp succeeded
    exact ⟨kernels, found, (lines_eq_empty_iff _ _).not.mp filled⟩

/-- `oldest` prints the first line of `versions` that no other line is lower than. -/
theorem isFirstOldest_of_printed {output chosen : String}
    (succeeded : printed settings surroundings root "versions" = .ok output)
    (resolved : printed settings surroundings root "oldest" = .ok chosen) :
    ∃ text, chosen = line text ∧ IsFirstOldest lineVersion (readLines output) text := by
  obtain ⟨kernels, found, rfl⟩ :=
    (printed_versions_eq_ok_iff settings surroundings root).mp succeeded
  obtain ⟨kernel, oldest, rfl⟩ :=
    (printed_oldest_eq_ok_iff settings surroundings root).mp resolved
  obtain ⟨kernels', found', choice⟩ :=
    (settings.moduleTree.outcome_oldest_eq_ok_iff surroundings.directories ⟨root⟩).mp oldest
  obtain rfl : kernels = kernels' := Except.ok.inj (found.symm.trans found')
  obtain ⟨-, read⟩ :=
    settings.moduleTree.names_of_outcome_kernels surroundings.directories ⟨root⟩ found
  refine ⟨row kernel.cells, rfl, ?_⟩
  rw [readLines_kernels read]
  exact isFirstOldest_row read (isFirstOldest_of_oldestBy choice)

/-- `check` succeeds where `list` prints a line. -/
theorem exists_printed_check_iff :
    (∃ output, printed settings surroundings root "check" = .ok output)
      ↔ ∃ listed, printed settings surroundings root "list" = .ok listed ∧ listed ≠ "" := by
  have present_iff : (∃ output, printed settings surroundings root "check" = .ok output)
      ↔ (settings.moduleTree.checkPresent surroundings.directories ⟨root⟩).outcome = .ok () := by
    constructor
    · rintro ⟨output, succeeded⟩
      obtain ⟨⟨⟩, present, -⟩ :=
        (printed_check_eq_ok_iff settings surroundings root).mp succeeded
      exact present
    · intro present
      exact ⟨_, (printed_check_eq_ok_iff settings surroundings root).mpr ⟨(), present, rfl⟩⟩
  rw [present_iff, ModuleTree.outcome_checkPresent_eq_ok_iff]
  constructor
  · rintro ⟨names, scanned, some_name⟩
    refine ⟨_, (printed_list_eq_ok_iff settings surroundings root).mpr ⟨_, scanned, rfl⟩, ?_⟩
    exact (lines_eq_empty_iff id _).not.mpr some_name
  · rintro ⟨listed, succeeded, filled⟩
    obtain ⟨names, scanned, rfl⟩ :=
      (printed_list_eq_ok_iff settings surroundings root).mp succeeded
    exact ⟨names, scanned, (lines_eq_empty_iff id _).not.mp filled⟩

end Printed

/-- **The outputs of the commands about an image agree, and can be read back.**  Where `versions`
succeeds, its output falls into the versions and the names of the kernels, in the order of the scan
and in no other way; each version is read off its name, and `list` succeeds with the names as its
lines.  `oldest` succeeds exactly where `versions` prints something, and prints the first of these
lines that no other has a lower version than.  `check` succeeds exactly where `list` prints
something. -/
theorem outputs_agree (settings : Settings) (surroundings : Surroundings) (root : String) :
    let prints := printed settings surroundings root
    (∀ output, prints "versions" = .ok output → ∃ kernels,
      (settings.moduleTree.kernels surroundings.directories ⟨root⟩).outcome = .ok kernels
      ∧ table output = kernels.map (fun kernel => [kernel.version.text, kernel.name])
      ∧ (∀ rows, (∀ pair ∈ rows, IsCell pair.1 ∧ IsCell pair.2) →
        lines (rows.map fun pair => line (row pair)) = output → rows = kernels.map Kernel.cells)
      ∧ (∀ kernel ∈ kernels, Version.ofName kernel.name = .ok kernel.version)
      ∧ ∃ listed, prints "list" = .ok listed ∧ readLines listed = kernels.map Kernel.name)
    ∧ ((∃ chosen, prints "oldest" = .ok chosen)
      ↔ ∃ output, prints "versions" = .ok output ∧ output ≠ "")
    ∧ (∀ output chosen, prints "versions" = .ok output → prints "oldest" = .ok chosen →
      ∃ text, chosen = line text ∧ IsFirstOldest lineVersion (readLines output) text)
    ∧ ((∃ output, prints "check" = .ok output)
      ↔ ∃ listed, prints "list" = .ok listed ∧ listed ≠ "") := by
  intro prints
  refine ⟨?_, exists_printed_oldest_iff settings surroundings root, ?_,
    exists_printed_check_iff settings surroundings root⟩
  · intro output succeeded
    exact table_of_printed_versions settings surroundings root succeeded
  · intro output chosen succeeded resolved
    exact isFirstOldest_of_printed settings surroundings root succeeded resolved

end Command

end KernelCensus
