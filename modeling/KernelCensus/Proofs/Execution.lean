/-
# Executions and their diagnostics

An execution is its parts, one after the other: the arguments are read, then the settings, then the
command is run, and the first part that fails ends it (`Execution.Course`).  How much is told of it
changes nothing else: in front of any arguments, the flag of verbosity adds the logged events to the
standard error and leaves the code, the output and the failure as they are
(`Execution.run_is_its_parts`).
-/
import KernelCensus.Command.Execution
import KernelCensus.Proofs.Arguments
import KernelCensus.Proofs.Printing
import KernelCensus.Proofs.Settings

namespace KernelCensus

/-! ## Flags of verbosity -/

namespace Arguments

/-- The flags that ask for all events. -/
def verboseFlags : List String :=
  ["-v", "--verbose"]

/-- The arguments without such flags before the command.  What names a settings file is no flag,
whatever it looks like. -/
def quieted : List String → List String
  | "--config" :: file :: rest => "--config" :: file :: quieted rest
  | "-v" :: rest => quieted rest
  | "--verbose" :: rest => quieted rest
  | words => words

/-- Arguments that do not ask for all events. -/
def withoutVerbose (arguments : Arguments) : Arguments :=
  { arguments with verbose := false }

/-- A flag in front of arguments is read as one. -/
theorem parse_verboseFlag {flag : String} (member : flag ∈ verboseFlags) (words : List String) :
    parse (flag :: words) = (parse words).map withVerbose := by
  simp only [verboseFlags, List.mem_cons, List.not_mem_nil, or_false] at member
  rcases member with rfl | rfl
  · rw [parse]
  · rw [parse]

/-- **Arguments without flags of verbosity say all else that they said**, and fail as they did. -/
theorem parse_quieted (words : List String) :
    parse (quieted words) = (parse words).map withoutVerbose := by
  -- The cases are those of `quieted`.
  fun_induction quieted words with
  | case1 file rest ih =>
    rw [parse, parse, ih]
    cases parse rest <;> rfl
  | case2 rest ih =>
    rw [parse, ih]
    cases parse rest <;> rfl
  | case3 rest ih =>
    rw [parse, ih]
    cases parse rest <;> rfl
  | case4 words no_file no_short no_long =>
    unfold parse
    split
    · rfl
    · rfl
    · next file rest => exact absurd rfl (no_file file rest)
    · next rest => exact absurd rfl (no_short rest)
    · next rest => exact absurd rfl (no_long rest)
    · rfl

/-- Arguments that do not ask for all events have no flag to lose. -/
theorem quieted_eq_self {words : List String} {arguments : Arguments}
    (read : parse words = .ok arguments) (quiet : arguments.verbose = false) :
    quieted words = words := by
  fun_induction quieted words generalizing arguments with
  | case1 file rest ih =>
    rw [parse] at read
    obtain ⟨others, read_rest, rfl⟩ := Outcome.map_eq_ok_iff.mp read
    rw [ih read_rest quiet]
  | case2 rest ih =>
    rw [parse] at read
    obtain ⟨others, read_rest, rfl⟩ := Outcome.map_eq_ok_iff.mp read
    cases quiet
  | case3 rest ih =>
    rw [parse] at read
    obtain ⟨others, read_rest, rfl⟩ := Outcome.map_eq_ok_iff.mp read
    cases quiet
  | case4 words no_file no_short no_long => rfl

end Arguments

/-! ## The course of an execution -/

namespace Execution

/-- What the settings come to: those in the file that is named, or else the default. -/
inductive Settles (surroundings : Surroundings) : Option Path → Except Failure Settings → Prop
  | loaded (file : Path) :
    Settles surroundings (some file)
      (Settings.load surroundings.reader surroundings.read file)
  | default :
    Settles surroundings none
      (.ok { modulesDir := ⟨"lib/modules"⟩, hostReleaseCommand := ["uname", "-r"] })

/-- What comes of some arguments, part by part: flags that leave a flag without its file, settings
that are not found, or a command.  A part that fails ends it, and only the command asks for
anything. -/
inductive Course (surroundings : Surroundings) (words : List String) : Printing Unit → Prop
  | misread {flags : List Flag} (unfinished : words = Arguments.spelled flags ++ ["--config"]) :
    Course surroundings words
      { outcome := .error (.of .noConfigFile), log := [], calls := [], printed := "" }
  | unsettled {flags : List Flag} {command : List String} {failure : Failure}
    (split : words = Arguments.spelled flags ++ command)
    (unflagged : Arguments.IsCommand command)
    (failed : Settles surroundings (flags.filterMap Flag.file?).getLast? (.error failure)) :
    Course surroundings words
      { outcome := .error failure, log := [], calls := [], printed := "" }
  | dispatched {flags : List Flag} {command : List String} {found : Settings}
    (split : words = Arguments.spelled flags ++ command)
    (unflagged : Arguments.IsCommand command)
    (settled : Settles surroundings (flags.filterMap Flag.file?).getLast? (.ok found)) :
    Course surroundings words (Command.printWords found surroundings command)

/-- What is known beforehand leaves no trace. -/
theorem silent_ok_bind {α β : Type} (a : α) (next : α → Printing β) :
    Printing.silent (Traced.ofExcept (.ok a)) >>= next = next a :=
  congrArg (Printing.mk (next a).toTraced) String.empty_append

/-- What has failed beforehand leaves no trace. -/
theorem silent_error_bind {α β : Type} (failure : Failure) (next : α → Printing β) :
    Printing.silent (Traced.ofExcept (.error failure)) >>= next
      = { outcome := .error failure, log := [], calls := [], printed := "" } := rfl

section Course

variable {surroundings : Surroundings} {words : List String}

/-- The settings are what they come to. -/
theorem settles_settings (surroundings : Surroundings) (arguments : Arguments) :
    Settles surroundings arguments.settingsFile (settings surroundings arguments) := by
  rw [settings]
  cases arguments.settingsFile with
  | some file => exact .loaded file
  | none => exact .default

/-- The settings come to one thing only. -/
theorem Settles.unique {named : Option Path} {outcome outcome' : Except Failure Settings}
    (h : Settles surroundings named outcome) (h' : Settles surroundings named outcome') :
    outcome = outcome' := by
  cases h <;> cases h' <;> rfl

/-- **An attempt takes its course.** -/
theorem attempt_course (surroundings : Surroundings) (words : List String) :
    Course surroundings words (attempt surroundings words) := by
  rw [attempt]
  cases read : Arguments.parse words with
  | error failure =>
    obtain ⟨rfl, flags, unfinished⟩ := Arguments.parse_eq_error_iff.mp read
    rw [silent_error_bind]
    exact .misread unfinished
  | ok arguments =>
    obtain ⟨flags, split, unflagged, -, file⟩ := Arguments.parse_eq_ok_iff.mp read
    have come := settles_settings surroundings arguments
    rw [file] at come
    rw [silent_ok_bind]
    cases settled : settings surroundings arguments with
    | error failure =>
      rw [settled] at come
      rw [silent_error_bind]
      exact .unsettled split unflagged come
    | ok found =>
      rw [settled] at come
      rw [silent_ok_bind]
      exact .dispatched split unflagged come

/-- An attempt that fails has printed nothing. -/
theorem Course.printed_eq_empty {result : Printing Unit} (h : Course surroundings words result)
    {failure : Failure} (failed : result.outcome = .error failure) : result.printed = "" := by
  cases h with
  | misread _ => rfl
  | unsettled _ _ _ => rfl
  | dispatched _ _ _ => exact Command.printWords_printed_eq_empty failed

/-- Where flags and a command are read and the settings found, the command is run. -/
theorem Course.eq_printWords {result : Printing Unit} (h : Course surroundings words result)
    {flags : List Flag} {command : List String} {found : Settings}
    (split : words = Arguments.spelled flags ++ command)
    (unflagged : Arguments.IsCommand command)
    (settled : Settles surroundings (flags.filterMap Flag.file?).getLast? (.ok found)) :
    result = Command.printWords found surroundings command := by
  subst split
  cases h with
  | misread unfinished =>
    obtain ⟨-, rfl⟩ := Arguments.spelled_append_inj (.inl unflagged) (.inr rfl) unfinished
    exact absurd unflagged (Arguments.not_isCommand_of_mem (by decide) [])
  | unsettled split' unflagged' failed =>
    obtain ⟨rfl, rfl⟩ := Arguments.spelled_append_inj (.inl unflagged) (.inl unflagged') split'
    cases settled.unique failed
  | dispatched split' unflagged' settled' =>
    obtain ⟨rfl, rfl⟩ := Arguments.spelled_append_inj (.inl unflagged) (.inl unflagged') split'
    cases settled.unique settled'
    rfl

/-- **An attempt succeeds where all of its parts do**, and prints what the command yields. -/
theorem Course.outcome_eq_ok_iff {result : Printing Unit} (h : Course surroundings words result)
    {output : String} : result.outcome = .ok () ∧ result.printed = output ↔
      ∃ flags command found, words = Arguments.spelled flags ++ command
        ∧ Arguments.IsCommand command
        ∧ Settles surroundings (flags.filterMap Flag.file?).getLast? (.ok found)
        ∧ (Command.dispatch found surroundings command).outcome = .ok output := by
  constructor
  · rintro ⟨ended, same⟩
    cases h with
    | misread _ => cases ended
    | unsettled _ _ _ => cases ended
    | dispatched split unflagged settled =>
      exact ⟨_, _, _, split, unflagged, settled,
        Printing.outcome_collected_eq_ok_iff.mpr ⟨ended, same⟩⟩
  · rintro ⟨flags, command, found, split, unflagged, settled, yielded⟩
    rw [h.eq_printWords split unflagged settled]
    exact Printing.outcome_collected_eq_ok_iff.mp yielded

end Course

/-- Arguments that differ only in how much is to be told are attempted alike. -/
theorem attempt_congr (surroundings : Surroundings) {words words' : List String}
    {f : Arguments → Arguments} (same : Arguments.parse words' = (Arguments.parse words).map f)
    (file : ∀ a, (f a).settingsFile = a.settingsFile) (command : ∀ a, (f a).command = a.command) :
    attempt surroundings words' = attempt surroundings words := by
  rw [attempt, attempt, same]
  cases Arguments.parse words with
  | error failure => rfl
  | ok arguments =>
    show Printing.silent (Traced.ofExcept (.ok (f arguments))) >>= _
      = Printing.silent (Traced.ofExcept (.ok arguments)) >>= _
    rw [silent_ok_bind, silent_ok_bind, command, settings, settings, file]

/-! ## Diagnostics -/

/-- All events, one to a line. -/
def records (log : List Event) : String :=
  String.join (log.map fun event => "[" ++ event.level.text ++ "] " ++ event.text ++ "\n")

/-- The last words of an execution: the whole chain of its failure, if it failed. -/
def lastWords : Except Failure Unit → String
  | .ok () => ""
  | .error failure => "Error: " ++ String.intercalate ": " failure.chain ++ "\n"

/-- The code of a success is zero, that of a failure one. -/
def codeOf : Except Failure Unit → Nat
  | .ok () => 0
  | .error _ => 1

/-- All events are shown to those who ask for them. -/
theorem shownEvents_true (log : List Event) : shownEvents true log = records log := by
  have all_shown : log.filter (fun event => (threshold true).rank ≤ event.level.rank) = log := by
    rw [List.filter_eq_self]
    intro event _
    exact decide_eq_true (Nat.zero_le event.level.rank)
  rw [shownEvents, all_shown]
  rfl

/-- No event is a warning or worse. -/
theorem rank_lt_warn (event : Event) : event.level.rank < Level.warn.rank := by
  cases event <;> simp [Event.level, Level.rank]

/-- No event is shown to those who do not ask for all. -/
theorem shownEvents_false (log : List Event) : shownEvents false log = "" := by
  have none_shown : log.filter (fun event => (threshold false).rank ≤ event.level.rank) = [] := by
    rw [List.filter_eq_nil_iff]
    intro event _ shown
    exact Nat.not_le.mpr (rank_lt_warn event) (of_decide_eq_true shown)
  rw [shownEvents, none_shown]
  rfl

/-- What a computation leaves behind: what it printed, and its events before its last words. -/
theorem ofPrinting_eq (verbose : Bool) (computation : Printing Unit) :
    ofPrinting verbose computation
      = { code := codeOf computation.outcome
          stdout := computation.printed
          stderr := shownEvents verbose computation.log ++ lastWords computation.outcome } := by
  rw [ofPrinting]
  cases computation.outcome with
  | ok done =>
    show Execution.mk 0 _ _ = Execution.mk 0 _ (_ ++ "")
    rw [String.append_empty]
  | error failure => rfl

/-! ## How much is told -/

section Told

variable (surroundings : Surroundings) (words : List String)

/-- What an execution leaves behind is told by its attempt. -/
theorem run_eq : run surroundings words
    = { code := codeOf (attempt surroundings words).outcome
        stdout := (attempt surroundings words).printed
        stderr := shownEvents (isVerbose words) (attempt surroundings words).log
          ++ lastWords (attempt surroundings words).outcome } :=
  ofPrinting_eq _ _

/-- With a flag of verbosity in front, all events of the attempt are shown.  Arguments that cannot
be read have none. -/
theorem shownEvents_verboseFlag {flag : String} (member : flag ∈ Arguments.verboseFlags) :
    shownEvents (isVerbose (flag :: words)) (attempt surroundings words).log
      = records (attempt surroundings words).log := by
  rw [isVerbose, Arguments.parse_verboseFlag member]
  cases unread : Arguments.parse words with
  | error failure =>
    rw [attempt, unread, silent_error_bind]
    rfl
  | ok arguments => exact shownEvents_true _

/-- With a flag of verbosity in front, all events are told before the last words. -/
theorem run_verboseFlag {flag : String} (member : flag ∈ Arguments.verboseFlags) :
    run surroundings (flag :: words)
      = { code := codeOf (attempt surroundings words).outcome
          stdout := (attempt surroundings words).printed
          stderr := records (attempt surroundings words).log
            ++ lastWords (attempt surroundings words).outcome } := by
  have read := Arguments.parse_verboseFlag member words
  rw [run_eq, attempt_congr surroundings read (fun _ => rfl) (fun _ => rfl),
    shownEvents_verboseFlag surroundings words member]

/-- Without flags of verbosity, only the last words are told. -/
theorem run_quieted : run surroundings (Arguments.quieted words)
    = { code := codeOf (attempt surroundings words).outcome
        stdout := (attempt surroundings words).printed
        stderr := lastWords (attempt surroundings words).outcome } := by
  have read := Arguments.parse_quieted words
  have quiet : isVerbose (Arguments.quieted words) = false := by
    rw [isVerbose, read]
    cases Arguments.parse words <;> rfl
  rw [run_eq, attempt_congr surroundings read (fun _ => rfl) (fun _ => rfl), quiet,
    shownEvents_false, String.empty_append]

/-- Every execution tells all events or none. -/
theorem run_eq_quieted_or_verboseFlag {flag : String} (member : flag ∈ Arguments.verboseFlags) :
    run surroundings words = run surroundings (Arguments.quieted words)
      ∨ run surroundings words = run surroundings (flag :: words) := by
  rw [run_quieted, run_verboseFlag surroundings words member, run_eq]
  cases isVerbose words with
  | false =>
    rw [shownEvents_false, String.empty_append]
    exact Or.inl rfl
  | true =>
    rw [shownEvents_true]
    exact Or.inr rfl

end Told

/-- **An execution is its parts, and how much it tells changes nothing else.**  It succeeds where
the arguments can be read, the settings be loaded from the file that they name or else be the
default ones, and the command succeeds, and then prints what the command yields; whatever fails, it
prints nothing and ends its words with the whole chain of the failure, and before the command
nothing has been asked for.  In front of any arguments, a flag of verbosity leaves code and output
as they are, and tells all events, one to a line and in order, before what is told without such
flags, where no event is. -/
theorem run_is_its_parts (surroundings : Surroundings) (words : List String) :
    let result := run surroundings words
    let parts := attempt surroundings words
    Course surroundings words parts
    ∧ (result.code = 0 ↔ ∃ flags command found output,
      words = Arguments.spelled flags ++ command ∧ Arguments.IsCommand command
      ∧ Settles surroundings (flags.filterMap Flag.file?).getLast? (.ok found)
      ∧ (Command.dispatch found surroundings command).outcome = .ok output)
    ∧ (∀ flags command found output,
      words = Arguments.spelled flags ++ command → Arguments.IsCommand command →
      Settles surroundings (flags.filterMap Flag.file?).getLast? (.ok found) →
      (Command.dispatch found surroundings command).outcome = .ok output →
      result.stdout = output)
    ∧ (result.code ≠ 0 → result.code = 1 ∧ result.stdout = ""
      ∧ ∃ failure texts told, parts.outcome = .error failure ∧ failure.root.Tells texts
        ∧ result.stderr
          = told ++ ("Error: " ++ String.intercalate ": " (failure.contexts ++ texts) ++ "\n"))
    ∧ (∀ file, Settings.Loads surroundings.reader surroundings.read file
      (Settings.load surroundings.reader surroundings.read file))
    ∧ (∀ event : Event, event.level.text = "DEBUG" ∨ event.level.text = "INFO")
    ∧ ∀ flag ∈ Arguments.verboseFlags,
      let loud := run surroundings (flag :: words)
      let quiet := run surroundings (Arguments.quieted words)
      loud.code = result.code ∧ quiet.code = result.code
      ∧ loud.stdout = result.stdout ∧ quiet.stdout = result.stdout
      ∧ loud.stderr = String.join (parts.log.map fun event =>
          "[" ++ event.level.text ++ "] " ++ event.text ++ "\n") ++ quiet.stderr
      ∧ quiet.stderr = lastWords parts.outcome
      ∧ (result = quiet ∨ result = loud)
      ∧ ∀ arguments, Arguments.parse words = .ok arguments → arguments.verbose = false →
        Arguments.quieted words = words := by
  intro result parts
  have course : Course surroundings words parts := attempt_course surroundings words
  have left : result = _ := run_eq surroundings words
  refine ⟨course, ?_, ?_, ?_, ?_, ?_, ?_⟩
  · rw [left]
    constructor
    · intro success
      cases ended : parts.outcome with
      | ok done =>
        obtain ⟨flags, command, found, others⟩ := course.outcome_eq_ok_iff.mp ⟨ended, rfl⟩
        exact ⟨flags, command, found, _, others⟩
      | error failure =>
        rw [ended] at success
        cases success
    · rintro ⟨flags, command, found, output, others⟩
      obtain ⟨ended, -⟩ := course.outcome_eq_ok_iff.mpr ⟨flags, command, found, others⟩
      rw [ended]
      rfl
  · intro flags command found output split unflagged settled yielded
    obtain ⟨-, printed⟩ :=
      course.outcome_eq_ok_iff.mpr ⟨flags, command, found, split, unflagged, settled, yielded⟩
    rw [left]
    exact printed
  · intro failed
    cases ended : parts.outcome with
    | ok done =>
      rw [left, ended] at failed
      exact absurd rfl failed
    | error failure =>
      rw [left, ended]
      obtain ⟨texts, tells, whole⟩ := Failure.chain_eq_iff.mp (Eq.refl failure.chain)
      refine ⟨rfl, course.printed_eq_empty ended, failure, texts,
        shownEvents (isVerbose words) parts.log, rfl, tells, ?_⟩
      rw [← whole]
      rfl
  · exact Settings.load_loads surroundings.reader surroundings.read
  · intro event
    cases event <;> simp [Event.level, Level.text]
  · intro flag member loud quiet
    have loud_eq : loud = _ := run_verboseFlag surroundings words member
    have quiet_eq : quiet = _ := run_quieted surroundings words
    refine ⟨?_, ?_, ?_, ?_, ?_, ?_, run_eq_quieted_or_verboseFlag surroundings words member,
      fun arguments => Arguments.quieted_eq_self⟩
    · rw [loud_eq, left]
    · rw [quiet_eq, left]
    · rw [loud_eq, left]
    · rw [quiet_eq, left]
    · rw [loud_eq, quiet_eq]
      rfl
    · rw [quiet_eq]

end Execution

end KernelCensus
