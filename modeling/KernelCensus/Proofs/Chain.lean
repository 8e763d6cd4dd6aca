/-
# What failures tell

The texts of an error are written out here once for each kind of error: its own text, and then those
of its causes, nearest first (`QueryError.Tells`), and so are the words for the end of a program
(`ExitStatus.Tells`).  An error from outside tells its own text and those of all that was behind it.
The chain of a failure is its contexts and then what its root tells (`Failure.chain_eq_iff`).
-/
import KernelCensus.Failure

namespace KernelCensus

/-! ## Ends of programs -/

namespace ExitStatus

/-- The words for the end of a program: its code, or the number of the signal with the name that it
may have, and then whether memory was dumped. -/
inductive Tells : ExitStatus → String → Prop
  | exited (code : Nat) : Tells (.exited code) ("exit status: " ++ toString code)
  | named {above : Nat} {name : String} (known : signalNames[above]? = some name) :
    Tells (.killed (above + 1) false)
      ("signal: " ++ toString (above + 1) ++ " (SIG" ++ name ++ ")")
  | unnamed {signal : Nat} (unknown : signal = 0 ∨ signalNames.length < signal) :
    Tells (.killed signal false) ("signal: " ++ toString signal)
  | dumped {signal : Nat} {words : String} (told : Tells (.killed signal false) words) :
    Tells (.killed signal true) (words ++ " (core dumped)")

/-- A signal that has a name is told by its number and its name. -/
theorem signalText_of_named {above : Nat} {name : String}
    (known : signalNames[above]? = some name) :
    signalText (above + 1) = "signal: " ++ toString (above + 1) ++ " (SIG" ++ name ++ ")" := by
  rw [signalText, known]
  rfl

/-- A signal that has no name is told by its number. -/
theorem signalText_of_unnamed {signal : Nat} (unknown : signal = 0 ∨ signalNames.length < signal) :
    signalText signal = "signal: " ++ toString signal := by
  cases signal with
  | zero => rfl
  | succ above =>
    have beyond := unknown.resolve_left (Nat.succ_ne_zero above)
    rw [signalText, List.getElem?_eq_none_iff.mpr (Nat.le_of_lt_succ beyond)]
    rfl

/-- A signal is told by its number and the name that it may have. -/
theorem tells_signalText (signal : Nat) : Tells (.killed signal false) (signalText signal) := by
  by_cases unknown : signal = 0 ∨ signalNames.length < signal
  · rw [signalText_of_unnamed unknown]
    exact .unnamed unknown
  · obtain ⟨above, rfl⟩ := Nat.exists_eq_succ_of_ne_zero fun none => unknown (.inl none)
    have inside : above < signalNames.length := by omega
    rw [signalText_of_named (List.getElem?_eq_getElem inside)]
    exact .named (List.getElem?_eq_getElem inside)

/-- **The words for the end of a program** are what the end tells. -/
theorem text_eq_iff {status : ExitStatus} {words : String} :
    status.text = words ↔ status.Tells words := by
  constructor
  · rintro rfl
    cases status with
    | exited code => exact .exited code
    | killed signal dumped =>
      cases dumped with
      | false => exact tells_signalText signal
      | true => exact .dumped (tells_signalText signal)
  · intro told
    induction told with
    | exited code => rfl
    | named known => exact signalText_of_named known
    | unnamed unknown => exact signalText_of_unnamed unknown
    | dumped told ih =>
      rw [← ih]
      rfl

example : (killed 11 true).text = "signal: 11 (SIGSEGV) (core dumped)" := by decide +kernel

end ExitStatus

/-! ## Errors of queries -/

/-- The texts of a query's error and of its causes, nearest first. -/
inductive QueryError.Tells : QueryError → List String → Prop
  | badRelease (raw : String) :
    Tells (.badRelease raw) ["failed to parse kernel version (" ++ raw ++ ")"]
  | unlisted (path : Path) (cause : IoError) :
    Tells (.io .enumerate path cause)
      (("failed to enumerate kernels under (" ++ path.text ++ ")")
        :: cause.message :: cause.sources)
  | unprobed (path : Path) (cause : IoError) :
    Tells (.io .checkEmpty path cause)
      (("failed to check if directory is empty (" ++ path.text ++ ")")
        :: cause.message :: cause.sources)
  | emptyInventory (searched : Path) :
    Tells (.emptyInventory searched)
      ["no installed kernels found in image (searched " ++ searched.text ++ ")"]
  | noKernelInstalled : Tells .noKernelInstalled ["no installed kernel found"]
  | reported (reason : String) :
    Tells (.hostQuery (.reported reason none))
      ["failed to get kernel version using uname: " ++ reason]
  | reportedCause (reason : String) (cause : Cause) :
    Tells (.hostQuery (.reported reason (some cause)))
      (("failed to get kernel version using uname: " ++ reason)
        :: cause.message :: cause.sources)
  | emptyCommand :
    Tells (.hostQuery .emptyCommand)
      ["failed to get kernel version using uname: empty host release command"]
  | notFound (program : String) (cause : Cause) :
    Tells (.hostQuery (.notFound program cause))
      (("failed to get kernel version using uname: '" ++ program ++ "' not found in PATH")
        :: cause.message :: cause.sources)
  | notStarted (commandLine : String) (cause : IoError) :
    Tells (.hostQuery (.notStarted commandLine cause))
      (("failed to get kernel version using uname: executing '" ++ commandLine ++ "'")
        :: cause.message :: cause.sources)
  | unsuccessful (commandLine : String) {status : ExitStatus} (complaint : String)
    {words : String} (ended : status.Tells words) :
    Tells (.hostQuery (.unsuccessful commandLine status complaint))
      ["failed to get kernel version using uname: '" ++ commandLine ++ "' failed (status "
        ++ words ++ "): " ++ complaint]
  | notText (commandLine : String) (index length : Nat) :
    Tells (.hostQuery (.notText commandLine ⟨index, some length⟩))
      ["failed to get kernel version using uname: '" ++ commandLine
        ++ "' printed non UTF-8 output",
        "invalid utf-8 sequence of " ++ toString length ++ " bytes from index "
          ++ toString index]
  | cutText (commandLine : String) (index : Nat) :
    Tells (.hostQuery (.notText commandLine ⟨index, none⟩))
      ["failed to get kernel version using uname: '" ++ commandLine
        ++ "' printed non UTF-8 output",
        "incomplete utf-8 byte sequence from index " ++ toString index]
  | unrecognized (release : String) :
    Tells (.hostQuery (.unrecognized release))
      ["failed to get kernel version using uname: unrecognized kernel release '" ++ release ++ "'",
        "failed to parse kernel version (" ++ release ++ ")"]

/-- **The chain of a query's error** is what the error tells. -/
theorem QueryError.chain_eq_iff {error : QueryError} {texts : List String} :
    error.chain = texts ↔ error.Tells texts := by
  constructor
  · rintro rfl
    cases error with
    | badRelease raw => exact .badRelease raw
    | io action path cause =>
      cases action with
      | enumerate => exact .unlisted path cause
      | checkEmpty => exact .unprobed path cause
    | emptyInventory searched => exact .emptyInventory searched
    | noKernelInstalled => exact .noKernelInstalled
    | hostQuery fault =>
      cases fault with
      | reported reason cause =>
        cases cause with
        | none => exact .reported reason
        | some cause => exact .reportedCause reason cause
      | emptyCommand => exact .emptyCommand
      | notFound program cause => exact .notFound program cause
      | notStarted commandLine cause => exact .notStarted commandLine cause
      | unsuccessful commandLine status complaint =>
        exact .unsuccessful commandLine complaint (ExitStatus.text_eq_iff.mp rfl)
      | notText commandLine fault =>
        obtain ⟨index, _ | length⟩ := fault
        · exact .cutText commandLine index
        · exact .notText commandLine index length
      | unrecognized release => exact .unrecognized release
  · intro told
    cases told with
    | unsuccessful commandLine complaint ended =>
      rw [← ExitStatus.text_eq_iff.mpr ended]
      rfl
    | _ => rfl

/-! ## Failures of commands -/

/-- The usage, with a line for each form in which a command may be given. -/
def usageOf (forms : List String) : String :=
  "Usage:" ++ String.join
    (forms.map fun form => "\n  kernel-inventory [-v] [--config <file>] " ++ form)

/-- The forms of commands. -/
def commandForms : List String :=
  ["list <rootfs>", "versions <rootfs>", "oldest <rootfs>", "check <rootfs>", "host"]

/-- The texts of what a failure comes down to. -/
inductive FailureRoot.Tells : FailureRoot → List String → Prop
  | query {error : QueryError} {texts : List String} (told : error.Tells texts) :
    Tells (.query error) texts
  | io (error : IoError) : Tells (.io error) (error.message :: error.sources)
  | document (report : Cause) : Tells (.document report) (report.message :: report.sources)
  | emptyModulesDir : Tells (.settings .emptyModulesDir) ["modules_dir must not be empty"]
  | escapingModulesDir (raw : String) :
    Tells (.settings (.escapingModulesDir raw))
      ["modules_dir contains invalid traversal/root component in '" ++ raw ++ "'"]
  | noProgram : Tells (.settings .noProgram) ["host_release_command must name a program"]
  | noConfigFile : Tells .noConfigFile ["--config needs a file\n" ++ usageOf commandForms]
  | noCommand : Tells .noCommand [usageOf commandForms]

/-- The usage names the forms of commands. -/
theorem usage_eq : usage = usageOf commandForms := by
  decide +kernel

/-- What a failure comes down to tells its texts. -/
theorem FailureRoot.chain_eq_iff {root : FailureRoot} {texts : List String} :
    root.chain = texts ↔ root.Tells texts := by
  constructor
  · rintro rfl
    cases root with
    | query error => exact .query (QueryError.chain_eq_iff.mp rfl)
    | io error => exact .io error
    | document report => exact .document report
    | settings error =>
      cases error with
      | emptyModulesDir => exact .emptyModulesDir
      | escapingModulesDir raw => exact .escapingModulesDir raw
      | noProgram => exact .noProgram
    | noConfigFile =>
      rw [chain, usage_eq]
      exact .noConfigFile
    | noCommand =>
      rw [chain, usage_eq]
      exact .noCommand
  · intro told
    cases told with
    | query told => exact QueryError.chain_eq_iff.mpr told
    | noConfigFile => rw [chain, usage_eq]
    | noCommand => rw [chain, usage_eq]
    | _ => rfl

/-- **The chain of a failure** is its contexts, outermost first, and then what its root tells. -/
theorem Failure.chain_eq_iff {failure : Failure} {texts : List String} :
    failure.chain = texts ↔ ∃ told, failure.root.Tells told ∧ texts = failure.contexts ++ told := by
  constructor
  · rintro rfl
    exact ⟨_, FailureRoot.chain_eq_iff.mp rfl, rfl⟩
  · rintro ⟨told, tells, rfl⟩
    rw [chain, FailureRoot.chain_eq_iff.mpr tells]

end KernelCensus
