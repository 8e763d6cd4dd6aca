/-
# Paths

A path is kept as the text it was given; joining does not tidy it.  Read as a walk, a path is a
list of components: repeated slashes, a slash at the end and a `.` other than a leading one
do not count.  Two spellings of one walk are `sameWalk`, though they differ as paths.
-/

namespace KernelCensus

/-- The text of a path, verbatim. -/
structure Path where
  text : String
  deriving DecidableEq, Repr, Inhabited

namespace Path

/-! ## Joining -/

/-- Puts one path below another: a slash goes between unless the left side is empty or ends in
one, and a right side that starts at the root stands alone. -/
def joinChars (left right : List Char) : List Char :=
  if right.head? = some '/' then right
  else if left = [] ∨ left.getLast? = some '/' then left ++ right
  else left ++ '/' :: right

/-- The path `right`, taken from the place that `left` names. -/
def join (left right : Path) : Path :=
  ⟨String.ofList (joinChars left.text.toList right.text.toList)⟩

/-- The entry of the given name below a path. -/
def entry (dir : Path) (name : String) : Path :=
  dir.join ⟨name⟩

/-! ## Components -/

/-- One step of a walk. -/
inductive Component
  | root
  | here
  | up
  | name (text : String)
  deriving DecidableEq, Repr

/-- The parts of a list of characters between slashes; there is one more part than slashes. -/
def splitSlash : List Char → List (List Char)
  | [] => [[]]
  | c :: cs =>
    if c = '/' then [] :: splitSlash cs
    else
      match splitSlash cs with
      | [] => [[c]]
      | part :: parts => (c :: part) :: parts

/-- The component that a part between slashes stands for; an empty part and `.` stand for
none. -/
def componentOf? (part : List Char) : Option Component :=
  if part = [] ∨ part = ['.'] then none
  else if part = ['.', '.'] then some .up
  else some (.name (String.ofList part))

/-- Where the walk begins: at the root, or, when `.` comes first, explicitly here. -/
def start (cs : List Char) : List Component :=
  if cs.head? = some '/' then [.root]
  else if (splitSlash cs).head? = some ['.'] then [.here]
  else []

/-- The components of a path, in walking order. -/
def components (p : Path) : List Component :=
  start p.text.toList ++ (splitSlash p.text.toList).filterMap componentOf?

/-- Whether two paths have the same components. -/
def sameWalk (p q : Path) : Bool :=
  p.components == q.components

/-- Whether a part between slashes stands for no component. -/
def isIdle (part : List Char) : Bool :=
  (componentOf? part).isNone

/-- A path that starts at the root, taken from there: the slash at its front is dropped, and then
the parts at both ends that stand for no component.  Any other path stays as it is. -/
def withoutRoot (p : Path) : Path :=
  match p.text.toList with
  | '/' :: rest =>
    let parts := (splitSlash rest).dropWhile isIdle
    ⟨String.ofList (['/'].intercalate (parts.reverse.dropWhile isIdle).reverse)⟩
  | _ => p

/-- Splitting at slashes yields at least one part. -/
theorem splitSlash_ne_nil (cs : List Char) : splitSlash cs ≠ [] := by
  induction cs with
  | nil => simp [splitSlash]
  | cons c cs ih =>
    rw [splitSlash]
    split
    · simp
    · split <;> simp

/-- Joining to the empty path changes nothing. -/
theorem joinChars_nil_left (right : List Char) : joinChars [] right = right := by
  simp [joinChars]

end Path

end KernelCensus
