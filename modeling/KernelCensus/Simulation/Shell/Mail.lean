/-
# News of mail

A shell that asks for what it runs looks at boxes for mail before it asks.  It says so when one is
there that was not there the time before; boxes that it was only just told of are not news.
-/
import KernelCensus.Simulation.Shell.Paths
import KernelCensus.Simulation.Shell.State

namespace KernelCensus

namespace Shell

/-- A box: its path, and what is said when it comes to be there. -/
structure MailBox where
  path : Octets
  words : Octets

/-- The box that a list of boxes starts with, and the list after it.  A percent sign stands before
what is said, which goes on to the end of the list. -/
def nextBox (list : Octets) : MailBox × Option Octets :=
  let isEnd (c : Char) : Bool := c = ':' || c = '%'
  let upTo (text : Octets) : Octets × Octets := text.span (· ≠ ':')
  let further (rest : Octets) : Option Octets := if rest.isEmpty then none else some rest.tail
  match list with
  | '%' :: words =>
    let rest := words.dropWhile (!isEnd ·)
    let (path, rest) := upTo (if rest.head? = some '%' then rest.tail else rest)
    ({ path, words }, further rest)
  | list =>
    let (path, rest) := list.span (!isEnd ·)
    match rest with
    | '%' :: words => ({ path, words }, further (upTo words).2)
    | rest => ({ path, words := "you have mail".toList }, further rest)

/-- The boxes of a list, at most so many.  The last one is followed by those of shorter paths. -/
def mailBoxes : Nat → Octets → List MailBox
  | 0, _ => []
  | bound + 1, list =>
    match nextBox list with
    | (box, some list) => box :: mailBoxes bound list
    | (box, none) =>
      (List.range (bound + 1)).map fun count =>
        { box with path := box.path.take (box.path.length - count) }

/-- The most boxes that are looked at. -/
def maxBoxes : Nat := 10

/-- Looks which boxes are there, where it is known which were; one without a path stays as it was.
-/
def lookInto (quiet : Bool) : List MailBox → List Bool → Run (List Bool)
  | [], known => pure known
  | box :: boxes, known => do
    let was := known.head?.getD false
    let look ← view
    let now := if box.path.isEmpty then was else leads look box.path
    if now && !was && !quiet then mutter box.words
    return now :: (← lookInto quiet boxes known.tail)

/-- Looks for mail. -/
def lookForMail : Run Unit := do
  let state ← get
  let list := (state.value? "MAILPATH".toList).or (state.value? "MAIL".toList)
  let mail ← lookInto state.mailMoved (mailBoxes maxBoxes (list.getD [])) state.mail
  modify fun state => { state with mail, mailMoved := false }

end Shell

end KernelCensus
