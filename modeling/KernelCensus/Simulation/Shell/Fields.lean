/-
# Fields

What a word expands to is cut into fields.  Only what came from parameters and substitutions is
cut, at separators.  Blanks among the separators are skipped at the ends and run together; any
other separator ends a field, even an empty one.
-/
import KernelCensus.Simulation.Shell.Atom

namespace KernelCensus

namespace Shell

/-! ## Cutting -/

/-- How an atom separates: not at all, like a blank, or in a way that always ends a field. -/
inductive Separation
  | none
  | blank
  | ending
  deriving DecidableEq, Repr

/-- How an atom separates under the given separators; there is no answer for what is never cut. -/
def Atom.separation (separators : Octets) : Atom → Option Separation
  | char c .result =>
    if !separators.contains c then some .none
    else if " \t\n".toList.contains c then some .blank
    else some .ending
  | border soft => some (if soft then .blank else .ending)
  | _ => Option.none

/-- How far cutting has come: the fields done and the current one, both in reverse, whether blanks
are being skipped, how many fields are left if they are limited, and what the last field is if
everything since then can be dropped. -/
structure Cutting where
  done : List (List Atom) := []
  current : List Atom := []
  skipping : Bool := false
  left : Option Nat := none
  kept : Option (List Atom) := none

namespace Cutting

/-- One more atom in the current field. -/
def keep (cutting : Cutting) (atom : Atom) : Cutting :=
  { cutting with current := atom :: cutting.current, skipping := false }

/-- An atom in the last field that there may be, where separators stay except at the end. -/
def keepLast (cutting : Cutting) (atom : Atom) (separation : Separation) : Cutting :=
  match separation with
  | .blank =>
    { cutting with
      current := atom :: cutting.current
      kept := some (cutting.kept.getD cutting.current) }
  | _ =>
    let droppable := separation = .ending && cutting.skipping
    let kept := if droppable then cutting.kept else none
    { cutting with current := atom :: cutting.current, skipping := false, kept }

/-- The current field ends at a separator. -/
def finishField (cutting : Cutting) (atom : Atom) (separation : Separation) : Cutting :=
  let skipping := separation = .blank
  if cutting.left = some 1 then
    { cutting with
      left := some 0
      kept := some cutting.current
      current := atom :: cutting.current
      skipping }
  else
    { cutting with
      done := cutting.current.reverse :: cutting.done
      current := []
      skipping
      left := cutting.left.map (· - 1) }

/-- Cuts at one more atom, or keeps it. -/
def step (separators : Octets) (cutting : Cutting) (atom : Atom) : Cutting :=
  match atom.separation separators with
  | none => cutting.keep atom
  | some separation =>
    if cutting.left = some 0 then cutting.keepLast atom separation
    else
      match separation with
      | .none => cutting.keep atom
      | .blank =>
        if cutting.skipping then cutting
        else if cutting.current.isEmpty then cutting
        else cutting.finishField atom .blank
      | .ending =>
        if cutting.skipping then { cutting with skipping := false }
        else cutting.finishField atom .ending

/-- The fields when there are no more atoms; an empty last field is none. -/
def fields (cutting : Cutting) : List (List Atom) :=
  let last := (cutting.kept.getD cutting.current).reverse
  (if last.isEmpty then cutting.done else last :: cutting.done).reverse

end Cutting

/-- The fields of an expanded word, at most so many if a limit is given. -/
def cutFields (separators : Octets) (limit : Option Nat) (atoms : List Atom) : List (List Atom) :=
  (atoms.foldl (Cutting.step separators) { left := limit }).fields

end Shell

end KernelCensus
