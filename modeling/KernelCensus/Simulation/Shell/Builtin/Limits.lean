/-
# Builtins for what a process may do

The mask says which permissions new files do not get; it is kept, but whoever runs a shell has all
permissions.  Limits say how much a process may use.
-/
import KernelCensus.Simulation.Shell.Builtin.Basic

namespace KernelCensus

namespace Shell

/-! ## The mask of new files -/

/-- What the mask lets a kind of user do. -/
def permissions (bits : Nat) : Octets :=
  let allowed := 7 - bits % 8
  ([(4, 'r'), (2, 'w'), (1, 'x')] : List (Nat × Char)).filterMap fun (bit, letter) =>
    if (allowed / bit) % 2 = 1 then some letter else none

/-- The bits of letters of permission, for one kind of user; a letter of a kind of user stands for
what that one was allowed. -/
def permissionBits (allowed : Nat) (letters : Octets) : Nat :=
  letters.foldl (fun bits c =>
    bits ||| (match c with
      | 'r' => 4
      | 'w' => 2
      | 'x' => 1
      | 'u' => allowed / 64 % 8
      | 'g' => allowed / 8 % 8
      | 'o' => allowed % 8
      | 'X' => if allowed &&& 0o111 = 0 then 0 else 1
      | _ => 0)) 0

/-- The lowest bits of the kinds of users that letters name. -/
def userBits (letters : Octets) : Nat :=
  letters.foldl (fun bits c =>
    bits ||| (match c with
      | 'u' => 0o100
      | 'g' => 0o010
      | 'o' => 0o001
      | _ => 0o111)) 0

/-- What users are allowed after changes, where they were allowed something before.  Each change
names users, an operator and permissions; no users are all of them, and after a comma others are
named.  A bound on the number of changes is given. -/
def changePermissions (before : Nat) : Nat → Nat → Nat → Octets → Option Nat
  | 0, _, _, _ => none
  | _, _, allowed, [] => some allowed
  | bound + 1, users, allowed, mode =>
    let names := mode.takeWhile "ugoa".toList.contains
    let named := users ||| userBits names
    let users := if named = 0 then 0o111 else named
    match mode.drop names.length with
    | [] => some allowed
    | operator :: rest =>
      let letters := rest.takeWhile "rwxugoXs".toList.contains
      let bits := permissionBits before letters * users
      let after? :=
        match operator with
        | '+' => some (allowed ||| bits)
        | '-' => some (allowed - (allowed &&& bits))
        | '=' => some ((allowed - (allowed &&& users * 7)) ||| bits)
        | _ => none
      match after?, rest.drop letters.length with
      | none, _ => none
      | some after, ',' :: more => changePermissions before bound 0 after more
      | some after, more =>
        if more.isEmpty || ['=', '+', '-'].contains (more.headD '=') then
          changePermissions before bound users after more
        else none

/-- The mask after changes of what users are allowed. -/
def changedMask (mask : Nat) (mode : Octets) : Option Nat :=
  let allowed := 0o777 - mask
  (changePermissions allowed (mode.length + 1) 0 allowed mode).map (0o777 - ·)

/-- Prints or sets the mask of new files. -/
def umask (arguments : List Octets) : Run Nat := do
  let (options, operands) ← takeOptions "S" "" arguments
  match operands with
  | [] =>
    let mask := (← get).mask
    if options.isEmpty then
      let digits := Nat.toDigits 8 mask
      answer (List.replicate (4 - digits.length) '0' ++ digits ++ ['\n'])
    else
      answer ("u=".toList ++ permissions (mask / 64) ++ ",g=".toList ++ permissions (mask / 8) ++
        ",o=".toList ++ permissions mask ++ ['\n'])
  | mode :: _ =>
    let mask ←
      if mode.head?.any Char.isDigit then
        if mode.all fun c => '0' ≤ c && c ≤ '7' then pure (Numeral.valueOf 8 mode % 512)
        else fail ("Illegal number: ".toList ++ mode)
      else
        match changedMask (← get).mask mode with
        | some mask => pure mask
        | none => fail ("Illegal mode: ".toList ++ mode)
    modify fun state => { state with mask }
    pure 0

/-! ## Limits -/

/-- How a limit is spelled: the resource, the letter of the option for it, its title in a list, and
the unit in which it is counted. -/
structure LimitForm where
  resource : Resource
  letter : Char
  title : String
  unit : UInt64

/-- The limits in the order in which they are listed. -/
def limitForms : List LimitForm :=
  [⟨.time, 't', "time(seconds)", 1⟩, ⟨.fileSize, 'f', "file(blocks)", 512⟩,
    ⟨.data, 'd', "data(kbytes)", 1024⟩, ⟨.stack, 's', "stack(kbytes)", 1024⟩,
    ⟨.core, 'c', "coredump(blocks)", 512⟩, ⟨.memory, 'm', "memory(kbytes)", 1024⟩,
    ⟨.lockedMemory, 'l', "locked memory(kbytes)", 1024⟩, ⟨.processes, 'p', "process", 1⟩,
    ⟨.files, 'n', "nofiles", 1⟩, ⟨.space, 'v', "vmemory(kbytes)", 1024⟩,
    ⟨.locks, 'w', "locks", 1⟩, ⟨.priority, 'r', "rtprio", 1⟩]

/-- The form of the limit that a letter names. -/
def limitForm (letter : Char) : LimitForm :=
  (limitForms.find? (·.letter = letter)).getD ⟨.fileSize, 'f', "file(blocks)", 512⟩

/-- A limit in its unit. -/
def LimitForm.shown (form : LimitForm) (limit : UInt64) : Octets :=
  if limit = Limit.unlimited then "unlimited\n".toList
  else (toString (limit / form.unit).toInt64).toList ++ ['\n']

/-- The limit that a text spells in a unit; what is too large for a word is cut off. -/
def limitOf (unit : UInt64) (text : Octets) : Option UInt64 :=
  if text = "unlimited".toList then some Limit.unlimited
  else if text.all Char.isDigit then some (UInt64.ofNat (Numeral.valueOf 10 text) * unit)
  else none

/-- The line of a limit in a list of all of them. -/
def LimitForm.line (form : LimitForm) (limit : UInt64) : Octets :=
  let title := form.title.toList
  title ++ List.replicate (20 - title.length) ' ' ++ ' ' :: form.shown limit

/-- Prints or sets a limit: the soft one, the hard one, or, where that is not said, both of them.
Of both, the soft one is printed. -/
def ulimit (arguments : List Octets) : Run Nat := do
  let (options, operands) ← takeOptions "HSatfdscmlpnvwr" "" arguments
  let letters := options.map Prod.fst
  let side? := (letters.filter fun c => c = 'H' || c = 'S').getLast?
  let form := limitForm (((letters.filter fun c => !"HSa".toList.contains c).getLast?).getD 'f')
  let { limits, .. } ← get
  let chosen (limit : Limit) : UInt64 := if side? = some 'H' then limit.hard else limit.soft
  match operands with
  | [] =>
    if letters.contains 'a' then
      answer (limitForms.flatMap fun form => form.line (chosen (limits.of form.resource)))
    else answer (form.shown (chosen (limits.of form.resource)))
  | text :: more =>
    if letters.contains 'a' || !more.isEmpty then fail "too many arguments".toList
    match limitOf form.unit text with
    | none => fail "bad number".toList
    | some word =>
      let old := limits.of form.resource
      let new : Limit :=
        ⟨if side? = some 'H' then old.soft else word, if side? = some 'S' then old.hard else word⟩
      match old.replace new with
      | .ok limit =>
        modify fun state => { state with limits := Table.put form.resource limit limits }
        pure 0
      | .error .softAboveHard => fail "error setting limit (Invalid argument)".toList
      | .error .raised => fail "error setting limit (Operation not permitted)".toList

end Shell

end KernelCensus
