/-
# The build host's version

A command tells the version of the build host's kernel where it names a program that is found and
started, that succeeds, and whose whole output is a text that spells a release between blanks
(`Programs.Reports`).  All other commands fail, for the first reason that applies
(`Programs.Fails`), and never in another way than by the host query (`hostVersion_decided`).
-/
import KernelCensus.Host.Release
import KernelCensus.Proofs.Blank
import KernelCensus.Proofs.Chain
import KernelCensus.Proofs.Outcome
import KernelCensus.Proofs.Release
import KernelCensus.Proofs.Utf8

namespace KernelCensus

/-! ## Commands that are run -/

/-- The only success is an exit with code zero. -/
theorem ExitStatus.isSuccess_iff {status : ExitStatus} :
    status.isSuccess = true ↔ status = .exited 0 := by
  cases status with
  | exited code => simp [isSuccess]
  | killed signal dumped => simp [isSuccess]

namespace Programs

variable {programs : Programs}

/-- A command was run and left the given output. -/
inductive Ran (programs : Programs) : List String → ProgramOutput → Prop
  | intro {program : String} {arguments : List String} {location : Path} {output : ProgramOutput}
    (found : programs.find program = .ok location)
    (ran : programs.run location arguments = .ok output) :
    Ran programs (program :: arguments) output

/-- A command reports a version: it succeeds, and its whole output is a text that, trimmed, is a
release of this version. -/
def Reports (programs : Programs) (command : List String) (version : Version) : Prop :=
  ∃ output printed, programs.Ran command output ∧ output.status = .exited 0
    ∧ output.stdout = Utf8.encode printed ∧ Version.ofRelease? (trim printed) = some version

/-- Why a command reports no version.  Each reason stands behind those that outweigh it, and takes
for granted that none of them applies. -/
inductive Fails (programs : Programs) : List String → HostFault → Prop
  | emptyCommand : Fails programs [] .emptyCommand
  | notFound {program : String} {arguments : List String} {cause : Cause}
    (unfound : programs.find program = .error cause) :
    Fails programs (program :: arguments) (.notFound program cause)
  | notStarted {program : String} {arguments : List String} {location : Path} {cause : IoError}
    (found : programs.find program = .ok location)
    (unstarted : programs.run location arguments = .error cause) :
    Fails programs (program :: arguments)
      (.notStarted (String.intercalate " " (program :: arguments)) cause)
  | unsuccessful {command : List String} {output : ProgramOutput}
    (ran : programs.Ran command output) (failure : output.status ≠ .exited 0) :
    Fails programs command (.unsuccessful (String.intercalate " " command) output.status
      (trim (Utf8.decodeLossy output.stderr)))
  | notText {command : List String} {output : ProgramOutput} {fault : Utf8.Fault}
    (ran : programs.Ran command output) (success : output.status = .exited 0)
    (garbled : Utf8.decode output.stdout = .error fault) :
    Fails programs command (.notText (String.intercalate " " command) fault)
  | unrecognized {command : List String} {output : ProgramOutput} {printed : String}
    (ran : programs.Ran command output) (success : output.status = .exited 0)
    (text : output.stdout = Utf8.encode printed)
    (unread : Version.ofRelease? (trim printed) = none) :
    Fails programs command (.unrecognized (trim printed))

/-- **Every command reports a version or fails.** -/
theorem reports_or_fails (programs : Programs) (command : List String) :
    (∃ version, programs.Reports command version) ∨ ∃ fault, programs.Fails command fault := by
  cases command with
  | nil => exact Or.inr ⟨_, .emptyCommand⟩
  | cons program arguments =>
    cases found : programs.find program with
    | error cause => exact Or.inr ⟨_, .notFound found⟩
    | ok location =>
      cases ended : programs.run location arguments with
      | error cause => exact Or.inr ⟨_, .notStarted found ended⟩
      | ok output =>
        have ran : programs.Ran (program :: arguments) output := .intro found ended
        by_cases success : output.status = .exited 0
        · cases decoded : Utf8.decode output.stdout with
          | error fault => exact Or.inr ⟨_, .notText ran success decoded⟩
          | ok printed =>
            have text := Utf8.decode_eq_ok_iff.mp decoded
            cases read : Version.ofRelease? (trim printed) with
            | none => exact Or.inr ⟨_, .unrecognized ran success text.symm read⟩
            | some version => exact Or.inl ⟨version, output, printed, ran, success, text.symm, read⟩
        · exact Or.inr ⟨_, .unsuccessful ran success⟩

/-! ## What the host answers -/

section Ran

variable {command : List String} {output : ProgramOutput} (ran : programs.Ran command output)

include ran

/-- A command that does not succeed is told by its status and its complaint. -/
theorem release_of_failure (failure : output.status ≠ .exited 0) : programs.release command
    = .error (.hostQuery (.unsuccessful (String.intercalate " " command) output.status
      (trim (Utf8.decodeLossy output.stderr)))) := by
  obtain ⟨found, ended⟩ := ran
  have unsuccessful : output.status.isSuccess = false :=
    Bool.eq_false_iff.mpr fun success => failure (ExitStatus.isSuccess_iff.mp success)
  simp only [release, found, ended, unsuccessful, Bool.false_eq_true, if_false]

/-- A command that succeeds with something else than a text has no answer. -/
theorem release_of_garbled {fault : Utf8.Fault} (success : output.status = .exited 0)
    (garbled : Utf8.decode output.stdout = .error fault) : programs.release command
      = .error (.hostQuery (.notText (String.intercalate " " command) fault)) := by
  obtain ⟨found, ended⟩ := ran
  simp only [release, found, ended, ExitStatus.isSuccess_iff.mpr success, garbled, if_true]

/-- The answer of a command that succeeds with a text is the text, trimmed. -/
theorem release_of_text {printed : String} (success : output.status = .exited 0)
    (text : output.stdout = Utf8.encode printed) :
    programs.release command = .ok (trim printed) := by
  obtain ⟨found, ended⟩ := ran
  have decoded := Utf8.decode_eq_ok_iff.mpr text.symm
  simp only [release, found, ended, ExitStatus.isSuccess_iff.mpr success, decoded, if_true]

end Ran

end Programs

/-! ## What becomes of the answer -/

/-- A host that answers with a release leaves its version. -/
theorem outcome_hostVersion_of_some {answered : String} {version : Version}
    (read : Version.ofRelease? (trim answered) = some version) :
    (hostVersion (.ok answered)).outcome = .ok version := by
  simp only [hostVersion, Traced.called_ok_bind, read]
  rfl

/-- A host that answers with something else fails, for all that it said. -/
theorem outcome_hostVersion_of_none {answered : String}
    (unread : Version.ofRelease? (trim answered) = none) :
    (hostVersion (.ok answered)).outcome = .error (.hostQuery (.unrecognized (trim answered))) := by
  simp only [hostVersion, Traced.called_ok_bind, unread]
  rfl

namespace Programs

variable {programs : Programs} {command : List String}

/-- A version that a command reports is the one that is found. -/
theorem Reports.outcome_eq {version : Version} (h : programs.Reports command version) :
    (hostVersion (programs.release command)).outcome = .ok version := by
  obtain ⟨output, printed, ran, success, text, read⟩ := h
  rw [release_of_text ran success text]
  apply outcome_hostVersion_of_some
  rw [trim_trim, read]

/-- The reason for which a command fails is the one that is given. -/
theorem Fails.outcome_eq {fault : HostFault} (h : programs.Fails command fault) :
    (hostVersion (programs.release command)).outcome = .error (.hostQuery fault) := by
  cases h with
  | emptyCommand => rfl
  | notFound unfound =>
    simp only [release, unfound]
    rfl
  | notStarted found unstarted =>
    simp only [release, found, unstarted]
    rfl
  | unsuccessful ran failure =>
    rw [release_of_failure ran failure]
    rfl
  | notText ran success garbled =>
    rw [release_of_garbled ran success garbled]
    rfl
  | unrecognized ran success text unread =>
    -- The answer is trimmed already, and trimmed once more before it is read.
    rw [release_of_text ran success text, outcome_hostVersion_of_none, trim_trim]
    rw [trim_trim, unread]

/-- A text with a blank in it is no release. -/
theorem ofRelease?_of_blank {release : String} {c : Char} (inside : c ∈ release.toList)
    (blank : isBlank c = true) : Version.ofRelease? release = none := by
  rw [Release.ofRelease?_eq_none_iff]
  rintro ⟨groups, tag, spells⟩
  rw [(spells.inTag c inside).not_blank] at blank
  cases blank

/-- **How the host query ends.**  It yields the version that the command reports, and otherwise
fails for the first reason that applies.  What is printed around a release in blanks does not
matter; blanks inside of it keep it from being read.  An unsuccessful end is told by its status, in
the words for an exit or a signal, and the complaint, without a cause; a release that is not
recognized is the one whose reading failed, without blanks around it. -/
theorem hostVersion_decided (programs : Programs) (command : List String) :
    let answer := (hostVersion (programs.release command)).outcome
    (∀ version, answer = .ok version ↔ programs.Reports command version)
    ∧ (∀ error, answer = .error error
      ↔ ∃ fault, error = .hostQuery fault ∧ programs.Fails command fault)
    ∧ (∀ output before core after, programs.Ran command output → output.status = .exited 0 →
      output.stdout = Utf8.encode (String.ofList (before ++ core.toList ++ after)) →
      (∀ c ∈ before, isBlank c = true) → (∀ c ∈ after, isBlank c = true) → IsTrimmed core.toList →
      (∀ version, Version.ofRelease? core = some version → answer = .ok version)
      ∧ (Version.ofRelease? core = none → answer = .error (.hostQuery (.unrecognized core)))
      ∧ ∀ c ∈ core.toList, isBlank c = true → Version.ofRelease? core = none)
    ∧ (∀ commandLine status complaint,
      (HostFault.unsuccessful commandLine status complaint).reason
        = s!"'{commandLine}' failed (status {status.text}): {complaint}"
      ∧ (QueryError.hostQuery (.unsuccessful commandLine status complaint)).causes = [])
    ∧ (∀ (status : ExitStatus) (words : String), status.text = words ↔ status.Tells words)
    ∧ ∀ release, programs.Fails command (.unrecognized release) →
      IsTrimmed release.toList
      ∧ (QueryError.hostQuery (.unrecognized release)).innermost = .badRelease release
      ∧ (QueryError.hostQuery (.unrecognized release)).causes
        = [(QueryError.badRelease release).message] := by
  intro answer
  refine ⟨?_, ?_, ?_, ?_, ?_, ?_⟩
  · intro version
    constructor
    · intro found
      rcases programs.reports_or_fails command with ⟨other, reports⟩ | ⟨fault, fails⟩
      · obtain rfl : other = version := Except.ok.inj (reports.outcome_eq.symm.trans found)
        exact reports
      · cases fails.outcome_eq.symm.trans found
    · intro reports
      exact reports.outcome_eq
  · intro error
    constructor
    · intro failed
      rcases programs.reports_or_fails command with ⟨version, reports⟩ | ⟨fault, fails⟩
      · cases reports.outcome_eq.symm.trans failed
      · exact ⟨fault, (Except.error.inj (fails.outcome_eq.symm.trans failed)).symm, fails⟩
    · rintro ⟨fault, rfl, fails⟩
      exact fails.outcome_eq
  · intro output before core after ran success text leading trailing trimmed
    have kept : trim (String.ofList (before ++ core.toList ++ after)) = core :=
      trim_eq_iff.mpr ⟨trimmed, before, after, String.toList_ofList, leading, trailing⟩
    refine ⟨?_, ?_, fun c inside blank => ofRelease?_of_blank inside blank⟩
    · intro version read
      exact Reports.outcome_eq ⟨output, _, ran, success, text, by rw [kept, read]⟩
    · intro unread
      have fails : programs.Fails command _ := .unrecognized ran success text (by rw [kept, unread])
      rw [kept] at fails
      exact fails.outcome_eq
  · intro commandLine status complaint
    exact ⟨rfl, rfl⟩
  · intro status words
    exact ExitStatus.text_eq_iff
  · intro release fails
    refine ⟨?_, rfl, rfl⟩
    cases fails with
    | unrecognized ran success text unread => exact isTrimmed_trim _

end Programs

end KernelCensus
