/-
# Walks that make directories

A walk along a path may make the directories that it lacks on its way.
-/
import KernelCensus.Machine.Walk
import KernelCensus.Simulation.FileTree

namespace KernelCensus

namespace IoError

/-- A directory is in the way. -/
def isADirectory : IoError where
  kind := .isADirectory
  message := "Is a directory (os error 21)"

/-- There is no device behind the name of one. -/
def noDevice : IoError where
  kind := .other
  message := "No such device or address (os error 6)"

/-- There is no room. -/
def noSpace : IoError where
  kind := .other
  message := "No space left on device (os error 28)"

/-- Something is there already. -/
def alreadyThere : IoError where
  kind := .other
  message := "File exists (os error 17)"

end IoError

namespace Walk

/-- The tree with a directory at every step of a path that leads to nothing, and the location of
the path in it. -/
def makeAlong (root : FileTree) (links : Nat) (here : List EntryName) :
    List EntryName → Except IoError (FileTree × List EntryName)
  | [] => .ok (root, here)
  | step :: rest =>
    match root.at? here with
    | some (.dir entries) =>
      if step = dot then makeAlong root links here rest
      else if step = dotDot then makeAlong root links here.dropLast rest
      else if maxName < step.length then .error .nameTooLong
      else
        match entries.lookup step with
        | none => makeAlong (root.putAt (.dir []) (here ++ [step])) links (here ++ [step]) rest
        | some (.link target) =>
          match links with
          | 0 => .error .tooManyLinks
          | left + 1 => makeAlong root left (start here target) (steps target ++ rest)
        | some _ => makeAlong root links (here ++ [step]) rest
    | _ => .error .notADirectory
termination_by rest => (links, rest.length)

end Walk

end KernelCensus
