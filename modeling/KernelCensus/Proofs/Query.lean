/-
# Queries about images

All queries about the kernels of an image rest on one scan of its module tree: what they answer and
log is concluded from the names that the scan keeps, and no calls are made beyond it
(`ModuleTree.RestsOnScan`, `Query.restsOnScan_answer`).
-/
import KernelCensus.Query
import KernelCensus.Proofs.Scan

namespace KernelCensus

/-! ## Resting on one scan -/

namespace ModuleTree

/-- What is found out about the image at a root by one scan: all that follows is concluded from the
names that the scan keeps, without another call. -/
def RestsOnScan {α : Type} (tree : ModuleTree) (root : Path)
    (ask : Outside → Traced QueryError α) : Prop :=
  ∃ conclude : List String → Traced QueryError α, (∀ names, (conclude names).calls = [])
    ∧ ∀ outside, ask outside = tree.names outside.directories root >>= conclude

section RestsOnScan

variable {α β : Type} {tree : ModuleTree} {root : Path} {ask : Outside → Traced QueryError α}

/-- Going on without a call rests on the same scan. -/
theorem RestsOnScan.bind (h : tree.RestsOnScan root ask) {next : α → Traced QueryError β}
    (silent : ∀ a, (next a).calls = []) :
    tree.RestsOnScan root fun outside => ask outside >>= next := by
  obtain ⟨conclude, quiet, rests⟩ := h
  refine ⟨fun names => conclude names >>= next, ?_, ?_⟩
  · intro names
    rw [Traced.calls_bind_of_silent _ silent, quiet]
  · intro outside
    show ask outside >>= next = _
    rw [rests, bind_assoc]

/-- What rests on a scan makes the calls of the scan. -/
theorem RestsOnScan.calls_eq (h : tree.RestsOnScan root ask) (outside : Outside) :
    (ask outside).calls = (tree.names outside.directories root).calls := by
  obtain ⟨conclude, quiet, rests⟩ := h
  rw [rests, Traced.calls_bind_of_silent _ quiet]

end RestsOnScan

variable (tree : ModuleTree) (root : Path)

/-- The scan rests on itself. -/
theorem restsOnScan_names :
    tree.RestsOnScan root fun outside => tree.names outside.directories root :=
  ⟨pure, fun _ => rfl, fun _ => (bind_pure _).symm⟩

/-- Reading kernels rests on one scan. -/
theorem restsOnScan_kernels :
    tree.RestsOnScan root fun outside => tree.kernels outside.directories root :=
  (tree.restsOnScan_names root).bind fun _ => rfl

/-- Reading versions rests on one scan. -/
theorem restsOnScan_versions :
    tree.RestsOnScan root fun outside => tree.versions outside.directories root :=
  (tree.restsOnScan_names root).bind fun _ => rfl

/-- Looking for the oldest kernel rests on one scan. -/
theorem restsOnScan_oldest :
    tree.RestsOnScan root fun outside => tree.oldest outside.directories root := by
  apply (tree.restsOnScan_kernels root).bind
  intro found
  exact Traced.calls_bind_of_silent _ fun _ => rfl

/-- Looking for the oldest version rests on one scan. -/
theorem restsOnScan_oldestVersion :
    tree.RestsOnScan root fun outside => tree.oldestVersion outside.directories root :=
  (tree.restsOnScan_versions root).bind fun _ => rfl

/-- Checking for presence rests on one scan. -/
theorem restsOnScan_checkPresent :
    tree.RestsOnScan root fun outside => tree.checkPresent outside.directories root := by
  apply (tree.restsOnScan_names root).bind
  intro found
  split <;> rfl

end ModuleTree

/-! ## Queries -/

/-- The queries about the kernels of the image at a root. -/
def Query.ofImage (root : Path) : List Query :=
  [.names root, .kernels root, .versions root, .oldest root, .oldestVersion root,
    .checkPresent root]

/-- **A query about an image rests on one scan.** -/
theorem Query.restsOnScan_answer (tree : ModuleTree) (root : Path) :
    ∀ query ∈ Query.ofImage root, tree.RestsOnScan root (query.answer tree) := by
  intro query member
  simp only [ofImage, List.mem_cons, List.not_mem_nil, or_false] at member
  rcases member with rfl | rfl | rfl | rfl | rfl | rfl
  · exact (tree.restsOnScan_names root).bind fun _ => rfl
  · exact (tree.restsOnScan_kernels root).bind fun _ => rfl
  · exact (tree.restsOnScan_versions root).bind fun _ => rfl
  · exact (tree.restsOnScan_oldest root).bind fun _ => rfl
  · exact (tree.restsOnScan_oldestVersion root).bind fun _ => rfl
  · exact (tree.restsOnScan_checkPresent root).bind fun _ => rfl

/-- **One scan answers a query about an image.** -/
theorem Query.calls_answer (tree : ModuleTree) (outside : Outside) (root : Path) :
    ∀ query ∈ Query.ofImage root,
      (query.answer tree outside).calls = (tree.names outside.directories root).calls := by
  intro query member
  exact (Query.restsOnScan_answer tree root query member).calls_eq outside

end KernelCensus
