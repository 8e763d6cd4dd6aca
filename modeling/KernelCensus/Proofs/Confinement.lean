/-
# Confinement

No settings lead a query out of the image that it is about: the module tree lies below the image's
root, its entries lie one step below it, and nothing else is asked for (`moduleTree_confined`).
-/
import KernelCensus.Proofs.Listing
import KernelCensus.Proofs.Printing
import KernelCensus.Proofs.Settings

namespace KernelCensus

/-- A call about a path within a root. -/
def Call.StaysWithin (call : Call) (root : Path) : Prop :=
  ∃ path, (call = .list path ∨ call = .isEmpty path) ∧ path.IsWithin root

/-- **A module tree leaves an image only by going up.**  At a directory without `..`, whether it
starts at the root or not, the tree lies within the image. -/
theorem ModuleTree.isWithin_path_ofDir {dir : Path} (no_up : .up ∉ dir.parts) (root : Path) :
    ((ofDir dir).path root).IsWithin root :=
  Path.isWithin_join root (Path.head?_withoutRoot_ne dir) fun up =>
    no_up (Path.mem_parts_of_withoutRoot up)

namespace Settings

/-! ## The module tree of settings -/

/-- Settings whose directory is relative name that very directory as their module tree. -/
theorem moduleTree_dir {settings : Settings} (safe : IsSafe settings.modulesDir) :
    settings.moduleTree.dir = settings.modulesDir := by
  rw [moduleTree, ModuleTree.ofDir, Path.withoutRoot_of_relative safe.relative]

/-- Directories of which one is listed, with the given names; none is empty. -/
def soleListing (directory : Path) (names : List String) : Directories :=
  ⟨fun path => if path = directory then .ok names else .error .noEntry, fun _ => .ok false⟩

/-! ## Confinement -/

/-- **No settings lead out of an image.**  The module tree is at the directory that the settings
name, a relative one that is not empty.  In every image it lies within the root, and an entry of it
is one step below it; so queries and commands about the image ask for paths within the root only.
That listings name entries only is what any machine with proper names sees to. -/
theorem moduleTree_confined {settings : Settings} (h : Obtained settings) :
    settings.moduleTree.dir = settings.modulesDir
    ∧ settings.modulesDir.text ≠ ""
    ∧ settings.modulesDir.text.toList.head? ≠ some '/'
    ∧ (∀ root, (settings.moduleTree.path root).IsWithin root
      ∧ (∀ name, Path.IsEntryName name →
        ((settings.moduleTree.path root).entry name).components
          = (settings.moduleTree.path root).components ++ [.name name])
      ∧ (∀ outside : Outside, outside.directories.ListsEntryNames →
        ∀ query ∈ Query.ofImage root, ∀ call ∈ (query.answer settings.moduleTree outside).calls,
          call.StaysWithin root)
      ∧ ∀ surroundings : Surroundings, surroundings.directories.ListsEntryNames →
        ∀ command ∈ Command.ofImage root, ∀ call ∈ (command.print settings surroundings).calls,
          call.StaysWithin root)
    ∧ ∀ (α : Type) (machine : Machine α), machine.IsTidy →
      machine.directories.ListsEntryNames := by
  have safe := h.safe
  have same := moduleTree_dir safe
  refine ⟨same, safe.filled, safe.relative, ?_, fun _ _ tidy => tidy.listsEntryNames⟩
  intro root
  have within : (settings.moduleTree.path root).IsWithin root :=
    ModuleTree.isWithin_path_ofDir safe.no_up root
  have filled : (settings.moduleTree.path root).text ≠ "" :=
    Path.join_ne_empty root (same.symm ▸ safe.filled)
  -- A scan asks for the tree itself, and for entries that were listed in it.
  have scan_within : ∀ dirs : Directories, dirs.ListsEntryNames →
      ∀ call ∈ (settings.moduleTree.names dirs root).calls, call.StaysWithin root := by
    intro dirs proper call made
    rcases ModuleTree.mem_calls_names made with rfl | ⟨listed, name, listing, member, rfl⟩
    · exact ⟨_, Or.inl rfl, within⟩
    · exact ⟨_, Or.inr rfl, within.entry filled (proper _ _ listing name member)⟩
  refine ⟨within, fun name is_name => Path.components_entry filled is_name, ?_, ?_⟩
  · intro outside proper query asked call made
    rw [Query.calls_answer _ _ _ query asked] at made
    exact scan_within _ proper call made
  · intro surroundings proper command given call made
    rw [Command.calls_print given] at made
    exact scan_within _ proper call made

/-- The text of a document that writes a directory with slashes before it, a `.` in it and blanks
around it, and what it spells. -/
def spelledDocument : String × Document :=
  ("modules_dir = ' //usr/./lib//modules '", { modulesDir := some " //usr/./lib//modules " })

/-- A directory with slashes before it, a `.` in it and blanks around it, in an image that has one
kernel there. -/
theorem moduleTree_confined_spelled :
    ofText (readerOf [spelledDocument]) spelledDocument.1
      = .ok { modulesDir := ⟨"usr/./lib//modules"⟩ }
    ∧ (soleListing ⟨"image/usr/./lib//modules"⟩ ["6.1.0"]).ListsEntryNames
    ∧ (∀ query ∈ Query.ofImage ⟨"image"⟩,
      ∀ call ∈ (query.answer (moduleTree { modulesDir := ⟨"usr/./lib//modules"⟩ })
          ⟨soleListing ⟨"image/usr/./lib//modules"⟩ ["6.1.0"], .ok "6.1.0"⟩).calls,
        call.StaysWithin ⟨"image"⟩)
    ∧ ((moduleTree { modulesDir := ⟨"usr/./lib//modules"⟩ }).names
        (soleListing ⟨"image/usr/./lib//modules"⟩ ["6.1.0"]) ⟨"image"⟩).calls
      = [.list ⟨"image/usr/./lib//modules"⟩, .isEmpty ⟨"image/usr/./lib//modules/6.1.0"⟩] := by
  have spelled : ofText (readerOf [spelledDocument]) spelledDocument.1
      = .ok { modulesDir := ⟨"usr/./lib//modules"⟩ } := by decide +kernel
  have proper : (soleListing ⟨"image/usr/./lib//modules"⟩ ["6.1.0"]).ListsEntryNames := by
    intro directory names listed name member
    simp only [soleListing] at listed
    split at listed
    · cases listed
      cases List.mem_singleton.mp member
      exact ⟨by decide, by decide, by decide, by decide⟩
    · cases listed
  obtain ⟨-, -, -, confined, -⟩ := moduleTree_confined (.text spelled)
  obtain ⟨-, -, calls_within, -⟩ := confined ⟨"image"⟩
  exact ⟨spelled, proper, calls_within _ proper, by decide⟩

end Settings

end KernelCensus
