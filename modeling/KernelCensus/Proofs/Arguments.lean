/-
# Flags and the command

Every list of arguments falls into flags and what they leave, in one way only
(`existsUnique_split`).  What is left is a command, whose first word is not that of a flag, or the
flag of the settings file without a file, and then the arguments cannot be read.  Else they say what
the flags say, of several settings files the last, and the command word for word
(`parse_splits`).
-/
import KernelCensus.Command.Arguments
import KernelCensus.Proofs.Outcome

namespace KernelCensus

/-! ## Flags -/

/-- A flag before the command. -/
inductive Flag
  /-- The short form of the flag of verbosity. -/
  | short
  /-- The long form of the flag of verbosity. -/
  | long
  /-- The flag of the settings file, with the file. -/
  | settings (file : String)
  deriving DecidableEq, Repr

namespace Flag

/-- The arguments that make up a flag. -/
def words : Flag → List String
  | short => ["-v"]
  | long => ["--verbose"]
  | settings file => ["--config", file]

/-- Whether a flag is one of verbosity. -/
def isVerbose : Flag → Bool
  | short => true
  | long => true
  | settings _ => false

/-- The settings file that a flag names. -/
def file? : Flag → Option Path
  | short => none
  | long => none
  | settings file => some ⟨file⟩

end Flag

namespace Arguments

/-- The arguments that make up several flags. -/
def spelled (flags : List Flag) : List String :=
  flags.flatMap Flag.words

/-- The first flag comes first. -/
theorem spelled_cons_append (flag : Flag) (flags : List Flag) (rest : List String) :
    spelled (flag :: flags) ++ rest = flag.words ++ (spelled flags ++ rest) := by
  rw [spelled, spelled, List.flatMap_cons, List.append_assoc]

/-- The words with which flags start. -/
def flagWords : List String :=
  ["-v", "--verbose", "--config"]

/-- Words that may stand for a command: none, or words of which the first starts no flag. -/
def IsCommand (words : List String) : Prop :=
  ∀ word ∈ words.head?, word ∉ flagWords

/-- What flags may leave: a command, or the flag of the settings file without a file. -/
def IsLeft (words : List String) : Prop :=
  IsCommand words ∨ words = ["--config"]

/-- No command starts with a flag. -/
theorem not_isCommand_of_mem {word : String} (member : word ∈ flagWords) (words : List String) :
    ¬ IsCommand (word :: words) :=
  fun command => command word rfl member

/-- Nothing that flags may leave starts with a whole flag. -/
theorem not_isLeft_append (flag : Flag) (words : List String) : ¬ IsLeft (flag.words ++ words) := by
  rintro (command | alone)
  · cases flag with
    | short => exact not_isCommand_of_mem (by decide) words command
    | long => exact not_isCommand_of_mem (by decide) words command
    | settings file => exact not_isCommand_of_mem (by decide) (file :: words) command
  · cases flag <;> simp [Flag.words] at alone

/-! ## Splitting -/

/-- The flags in front, and what they leave. -/
def split : List String → List Flag × List String
  | "--config" :: file :: rest => (.settings file :: (split rest).1, (split rest).2)
  | "-v" :: rest => (.short :: (split rest).1, (split rest).2)
  | "--verbose" :: rest => (.long :: (split rest).1, (split rest).2)
  | words => ([], words)

/-- A flag in front is split off. -/
theorem split_append (flag : Flag) (words : List String) :
    split (flag.words ++ words) = (flag :: (split words).1, (split words).2) := by
  cases flag <;> rfl

/-- What flags may leave is left as it is. -/
theorem split_of_isLeft {words : List String} (h : IsLeft words) : split words = ([], words) := by
  unfold split
  split
  · next file rest => exact absurd h (not_isLeft_append (.settings file) rest)
  · next rest => exact absurd h (not_isLeft_append .short rest)
  · next rest => exact absurd h (not_isLeft_append .long rest)
  · rfl

/-- Splitting takes no word away. -/
theorem spelled_split (words : List String) :
    spelled (split words).1 ++ (split words).2 = words := by
  fun_induction split words with
  | case1 file rest ih => exact congrArg (["--config", file] ++ ·) ih
  | case2 rest ih => exact congrArg (["-v"] ++ ·) ih
  | case3 rest ih => exact congrArg (["--verbose"] ++ ·) ih
  | case4 words no_file no_short no_long => rfl

/-- Splitting leaves what flags may leave. -/
theorem isLeft_split (words : List String) : IsLeft (split words).2 := by
  fun_induction split words with
  | case1 file rest ih => exact ih
  | case2 rest ih => exact ih
  | case3 rest ih => exact ih
  | case4 words no_file no_short no_long =>
    cases words with
    | nil => exact Or.inl fun word first => (by cases first)
    | cons word rest =>
      by_cases member : word ∈ flagWords
      · -- A word of a flag is no flag only if a file is missing behind it.
        simp only [flagWords, List.mem_cons, List.not_mem_nil, or_false] at member
        rcases member with rfl | rfl | rfl
        · exact absurd rfl (no_short rest)
        · exact absurd rfl (no_long rest)
        · cases rest with
          | nil => exact Or.inr rfl
          | cons file rest => exact absurd rfl (no_file file rest)
      · refine Or.inl fun other first => ?_
        cases first
        exact member

/-- Flags and what they leave are found again. -/
theorem split_spelled_append (flags : List Flag) {rest : List String} (h : IsLeft rest) :
    split (spelled flags ++ rest) = (flags, rest) := by
  induction flags with
  | nil => exact split_of_isLeft h
  | cons flag flags ih =>
    rw [spelled_cons_append, split_append, ih]

/-- What two lists of flags leave is the same only if the flags are. -/
theorem spelled_append_inj {flags flags' : List Flag} {rest rest' : List String} (h : IsLeft rest)
    (h' : IsLeft rest') (same : spelled flags ++ rest = spelled flags' ++ rest') :
    flags = flags' ∧ rest = rest' := by
  have both := congrArg split same
  rw [split_spelled_append flags h, split_spelled_append flags' h', Prod.mk.injEq] at both
  exact both

/-- **All arguments fall into flags and what they leave, in one way only.** -/
theorem existsUnique_split (words : List String) : ∃! parts : List Flag × List String,
    words = spelled parts.1 ++ parts.2 ∧ IsLeft parts.2 := by
  refine ⟨split words, ⟨(spelled_split words).symm, isLeft_split words⟩, ?_⟩
  rintro ⟨flags, rest⟩ ⟨rfl, left⟩
  exact (split_spelled_append flags left).symm

/-! ## Reading -/

/-- The arguments that flags and a command stand for. -/
def ofParts (flags : List Flag) (command : List String) : Arguments where
  verbose := flags.any Flag.isVerbose
  settingsFile := (flags.filterMap Flag.file?).getLast?
  command := command

/-- The arguments in front of which a flag stands. -/
def withFlag : Flag → Arguments → Arguments
  | .short => withVerbose
  | .long => withVerbose
  | .settings file => withSettingsFile file

/-- A flag in front is read by itself. -/
theorem parse_append (flag : Flag) (words : List String) :
    parse (flag.words ++ words) = (parse words).map (withFlag flag) := by
  cases flag <;> rfl

/-- One more flag in front is one more flag; the settings file behind it outweighs its own. -/
theorem withFlag_ofParts (flag : Flag) (flags : List Flag) (command : List String) :
    withFlag flag (ofParts flags command) = ofParts (flag :: flags) command := by
  cases flag with
  | short => rfl
  | long => rfl
  | settings file =>
    have outweighed : (flags.filterMap Flag.file?).getLast?.or (some ⟨file⟩)
        = ((Flag.settings file :: flags).filterMap Flag.file?).getLast? := by
      rw [List.filterMap_cons, Flag.file?, List.getLast?_cons]
      cases (flags.filterMap Flag.file?).getLast? <;> rfl
    exact congrArg (Arguments.mk (flags.any Flag.isVerbose) · command) outweighed

/-- A command is read word for word. -/
theorem parse_of_isCommand {words : List String} (h : IsCommand words) :
    parse words = .ok { command := words } := by
  unfold parse
  split
  · rfl
  · exact absurd h (not_isCommand_of_mem (by decide) _)
  · exact absurd h (not_isCommand_of_mem (by decide) _)
  · exact absurd h (not_isCommand_of_mem (by decide) _)
  · exact absurd h (not_isCommand_of_mem (by decide) _)
  · rfl

/-- **Flags before a command** say what they say, each by itself. -/
theorem parse_spelled_command (flags : List Flag) {command : List String} (h : IsCommand command) :
    parse (spelled flags ++ command) = .ok (ofParts flags command) := by
  induction flags with
  | nil => exact parse_of_isCommand h
  | cons flag flags ih =>
    rw [spelled_cons_append, parse_append, ih, ← withFlag_ofParts]
    rfl

/-- **Flags before the flag of the settings file without a file** do not help. -/
theorem parse_spelled_unfinished (flags : List Flag) :
    parse (spelled flags ++ ["--config"]) = .error (.of .noConfigFile) := by
  induction flags with
  | nil => rfl
  | cons flag flags ih =>
    rw [spelled_cons_append, parse_append, ih]
    rfl

/-- All arguments fall into flags and what they leave. -/
theorem exists_spelled_append (words : List String) :
    ∃ flags rest, words = spelled flags ++ rest ∧ IsLeft rest :=
  ⟨(split words).1, (split words).2, (spelled_split words).symm, isLeft_split words⟩

/-- Arguments cannot be read where flags leave the flag of the settings file without a file. -/
theorem parse_eq_error_iff {words : List String} {failure : Failure} :
    parse words = .error failure
      ↔ failure = .of .noConfigFile ∧ ∃ flags, words = spelled flags ++ ["--config"] := by
  constructor
  · intro failed
    obtain ⟨flags, rest, rfl, command | rfl⟩ := exists_spelled_append words
    · rw [parse_spelled_command flags command] at failed
      cases failed
    · rw [parse_spelled_unfinished] at failed
      exact ⟨(Except.error.inj failed).symm, flags, rfl⟩
  · rintro ⟨rfl, flags, rfl⟩
    exact parse_spelled_unfinished flags

/-- A flag of verbosity is the short or the long one. -/
theorem any_isVerbose_iff {flags : List Flag} :
    flags.any Flag.isVerbose = true ↔ .short ∈ flags ∨ .long ∈ flags := by
  rw [List.any_eq_true]
  constructor
  · rintro ⟨flag, member, verbose⟩
    cases flag with
    | short => exact Or.inl member
    | long => exact Or.inr member
    | settings file => cases verbose
  · rintro (member | member)
    · exact ⟨.short, member, rfl⟩
    · exact ⟨.long, member, rfl⟩

/-- Arguments are those of flags and a command where they say what these say. -/
theorem ofParts_eq_iff {flags : List Flag} {arguments : Arguments} :
    ofParts flags arguments.command = arguments
      ↔ (arguments.verbose = true ↔ .short ∈ flags ∨ .long ∈ flags)
        ∧ arguments.settingsFile = (flags.filterMap Flag.file?).getLast? := by
  obtain ⟨verbose, settingsFile, command⟩ := arguments
  rw [ofParts, Arguments.mk.injEq, ← any_isVerbose_iff, Bool.eq_iff_iff]
  exact ⟨fun h => ⟨h.1.symm, h.2.1.symm⟩, fun h => ⟨h.1.symm, h.2.symm, rfl⟩⟩

/-- **What arguments say** is what their flags say and the command behind these. -/
theorem parse_eq_ok_iff {words : List String} {arguments : Arguments} :
    parse words = .ok arguments ↔ ∃ flags, words = spelled flags ++ arguments.command
      ∧ IsCommand arguments.command
      ∧ (arguments.verbose = true ↔ .short ∈ flags ∨ .long ∈ flags)
      ∧ arguments.settingsFile = (flags.filterMap Flag.file?).getLast? := by
  constructor
  · intro read
    obtain ⟨flags, rest, rfl, command | rfl⟩ := exists_spelled_append words
    · rw [parse_spelled_command flags command, Except.ok.injEq] at read
      subst read
      exact ⟨flags, rfl, command, ofParts_eq_iff.mp rfl⟩
    · rw [parse_spelled_unfinished] at read
      cases read
  · rintro ⟨flags, rfl, command, said⟩
    rw [parse_spelled_command flags command, ofParts_eq_iff.mpr said]

/-- Of several settings files the last is taken, and a flag that stands for a file is none. -/
example : parse ["--config", "a", "--config", "-v", "list", "-v"]
    = .ok { settingsFile := some ⟨"-v"⟩, command := ["list", "-v"] } := by decide

/-! ## Writing -/

/-- The flags that say what arguments say. -/
def flags (arguments : Arguments) : List Flag :=
  (if arguments.verbose then [.short] else [])
    ++ (arguments.settingsFile.map fun file => Flag.settings file.text).toList

/-- The words in which arguments are written: the flags first, and then the command. -/
def written (arguments : Arguments) : List String :=
  (if arguments.verbose then ["-v"] else [])
    ++ (match arguments.settingsFile with
      | none => []
      | some file => ["--config", file.text])
    ++ arguments.command

/-- Written arguments are flags and the command. -/
theorem written_eq (arguments : Arguments) :
    arguments.written = spelled arguments.flags ++ arguments.command := by
  obtain ⟨verbose, settingsFile, command⟩ := arguments
  cases verbose <;> cases settingsFile <;> rfl

/-- The flags of arguments say what the arguments say. -/
theorem ofParts_flags (arguments : Arguments) :
    ofParts arguments.flags arguments.command = arguments := by
  obtain ⟨verbose, settingsFile, command⟩ := arguments
  cases verbose <;> cases settingsFile <;> rfl

/-- Written arguments are read as what was written. -/
theorem parse_written {arguments : Arguments} (h : IsCommand arguments.command) :
    parse arguments.written = .ok arguments := by
  rw [written_eq, parse_spelled_command arguments.flags h, ofParts_flags]

/-- **Reading the arguments is splitting them.**  They fall into flags and what these leave in one
way only.  They cannot be read exactly where what is left is the flag of the settings file without a
file.  Else they ask for all events where one of the flags does, the settings file is that of the
last flag that names one, and all the rest is the command, word for word.  So arguments whose
command starts with no flag are read as they were written. -/
theorem parse_splits :
    (∀ words, ∃! parts : List Flag × List String,
      words = spelled parts.1 ++ parts.2 ∧ IsLeft parts.2)
    ∧ (∀ words failure, parse words = .error failure
      ↔ failure = .of .noConfigFile ∧ ∃ flags, words = spelled flags ++ ["--config"])
    ∧ (∀ words arguments, parse words = .ok arguments
      ↔ ∃ flags, words = spelled flags ++ arguments.command ∧ IsCommand arguments.command
        ∧ (arguments.verbose = true ↔ .short ∈ flags ∨ .long ∈ flags)
        ∧ arguments.settingsFile = (flags.filterMap Flag.file?).getLast?)
    ∧ ∀ arguments : Arguments, IsCommand arguments.command →
      parse arguments.written = .ok arguments :=
  ⟨existsUnique_split, fun _ _ => parse_eq_error_iff, fun _ _ => parse_eq_ok_iff,
    fun _ => parse_written⟩

end Arguments

end KernelCensus
