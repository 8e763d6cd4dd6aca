/-
# Walking a file tree

A path is resolved by walking from a directory, step by step, through the tree.  A symbolic link
on the way is replaced by the walk to its target, at most forty times.  A walk ends at a location
where no link stands, or fails with the first obstacle.
-/
import KernelCensus.Error
import KernelCensus.Machine.Node

namespace KernelCensus

/-! ## Obstacles -/

namespace IoError

/-- Nothing is there. -/
def noEntry : IoError where
  kind := .notFound
  message := "No such file or directory (os error 2)"

/-- A directory is needed. -/
def notADirectory : IoError where
  kind := .notADirectory
  message := "Not a directory (os error 20)"

/-- A name or a path is too long. -/
def nameTooLong : IoError where
  kind := .invalidFilename
  message := "File name too long (os error 36)"

/-- There are too many links to follow. -/
def tooManyLinks : IoError where
  kind := .filesystemLoop
  message := "Too many levels of symbolic links (os error 40)"

/-- No path holds a zero byte. -/
def zeroByte : IoError where
  kind := .invalidInput
  message := "file name contained an unexpected NUL byte"

end IoError

namespace Walk

/-! ## Steps -/

/-- The slash. -/
def slash : UInt8 := 0x2F

/-- The step that stays. -/
def dot : EntryName := [0x2E]

/-- The step that goes up. -/
def dotDot : EntryName := [0x2E, 0x2E]

/-- The parts of a list of bytes between slashes. -/
def splitSlash : List UInt8 → List EntryName
  | [] => [[]]
  | b :: bs =>
    if b = slash then [] :: splitSlash bs
    else
      match splitSlash bs with
      | [] => [[b]]
      | part :: parts => (b :: part) :: parts

/-- The steps of a path; one that ends in a slash has a last step that stays, so that it asks for
a directory. -/
def steps (path : List UInt8) : List EntryName :=
  (splitSlash path).filter (fun part => !part.isEmpty) ++
    if path.getLast? = some slash then [dot] else []

/-- Where the walk along a path starts. -/
def start (here : List EntryName) (path : List UInt8) : List EntryName :=
  if path.head? = some slash then [] else here

/-! ## Limits -/

/-- The most links that one walk follows. -/
def maxLinks : Nat := 40

/-- The most bytes of one name. -/
def maxName : Nat := 255

/-- The most bytes of a path. -/
def maxPath : Nat := 4095

/-! ## Walking -/

/-- The location that steps lead to from a location, following at most so many links. -/
def along {α : Type} (root : Node α) (links : Nat) (here : List EntryName) :
    List EntryName → Except IoError (List EntryName)
  | [] => .ok here
  | step :: rest =>
    match root.at? here with
    | some (.dir entries) =>
      if step = dot then along root links here rest
      else if step = dotDot then along root links here.dropLast rest
      else if maxName < step.length then .error .nameTooLong
      else
        match entries.lookup step with
        | none => .error .noEntry
        | some (.link target) =>
          match links with
          | 0 => .error .tooManyLinks
          | left + 1 => along root left (start here target) (steps target ++ rest)
        | some _ => along root links (here ++ [step]) rest
    | _ => .error .notADirectory
termination_by rest => (links, rest.length)

/-- Refuses a path that no walk can follow: one with a zero byte, an empty one, or one that is
too long. -/
def checkPath (path : List UInt8) : Except IoError Unit :=
  if path.contains 0 then .error .zeroByte
  else if path.isEmpty then .error .noEntry
  else if maxPath < path.length then .error .nameTooLong
  else .ok ()

/-- The location of a path, taken from a location. -/
def locate {α : Type} (root : Node α) (here : List EntryName) (path : List UInt8) :
    Except IoError (List EntryName) := do
  checkPath path
  along root maxLinks (start here path) (steps path)

end Walk

end KernelCensus
