/-
# Choosing and ranking versions

The oldest of several candidates is the first that no other candidate is lower than.  A ranked
list of versions ascends and leaves level versions in their given order.
-/
import KernelCensus.Version.Basic

namespace KernelCensus

/-! ## Choosing one -/

/-- The candidate with the lowest version; among level ones the first.  The choice starts with
the first candidate and moves only to a strictly lower one. -/
def oldestBy {α : Type} (version : α → Version) : List α → Option α
  | [] => none
  | first :: others =>
    some (others.foldl (fun best x => if version x < version best then x else best) first)

namespace Version

/-- The lowest version; among level ones the first. -/
def lowest (vs : List Version) : Option Version :=
  oldestBy id vs

/-- The highest version; among level ones the last. -/
def highest : List Version → Option Version
  | [] => none
  | first :: others => some (others.foldl max first)

/-! ## Ranking all -/

/-- The versions in ascending order, level ones in their given order. -/
def ranked (vs : List Version) : List Version :=
  vs.mergeSort fun v w => decide (v ≤ w)

/-- Keeps of each run of level neighbours the first, given the one kept before. -/
def distinctAfter (kept : Version) : List Version → List Version
  | [] => []
  | v :: vs => if kept.isLevel v then distinctAfter kept vs else v :: distinctAfter v vs

/-- Keeps of each run of level neighbours the first. -/
def distinct : List Version → List Version
  | [] => []
  | v :: vs => v :: distinctAfter v vs

end Version

end KernelCensus
