/-
# Whole results or nothing

A command asks its query first and prints afterwards, so whatever fails does so before the first
line.  What becomes of a command is said once (`Command.Tells`, `Command.print_tells`): it prints
all lines of an answer, or it prints nothing and passes on the error of its query unchanged, inside
its own context.  Words that spell no command fail with the usage and ask for nothing
(`Command.printWords_whole_or_nothing`).
-/
import KernelCensus.Command.Printing
import KernelCensus.Proofs.Chain
import KernelCensus.Proofs.Query

namespace KernelCensus

/-! ## Printing -/

namespace Printing

variable {α : Type}

/-- Printing for each element of a list prints all of the texts, and nothing can fail on the way. -/
theorem printEach_eq (text : α → String) (as : List α) :
    printEach text as = ⟨pure (), String.join (as.map text)⟩ := by
  induction as with
  | nil => rfl
  | cons a as ih =>
    rw [printEach, ih, List.map_cons, String.join_cons]
    rfl

/-- **What can fail comes before what is printed**, if all that follows only prints: a failure has
printed nothing, and a success has printed everything. -/
theorem silent_bind_of_prints (asked : Traced Failure α) {shown : α → Printing Unit}
    {text : α → String} (prints : ∀ a, shown a = ⟨pure (), text a⟩) :
    silent asked >>= shown
      = { outcome := asked.outcome.map fun _ => ()
          log := asked.log
          calls := asked.calls
          printed :=
            match asked.outcome with
            | .error _ => ""
            | .ok a => text a } := by
  obtain ⟨outcome, log, calls⟩ := asked
  obtain rfl : shown = fun a => ⟨pure (), text a⟩ := funext prints
  cases outcome with
  | error e => rfl
  | ok a =>
    show (⟨⟨.ok (), log ++ [], calls ++ []⟩, "" ++ text a⟩ : Printing Unit) = _
    rw [List.append_nil, List.append_nil, String.empty_append]
    rfl

/-- One who waits for the end of a success has what was printed. -/
theorem outcome_collected_eq_ok_iff {computation : Printing Unit} {output : String} :
    computation.collected.outcome = .ok output
      ↔ computation.outcome = .ok () ∧ computation.printed = output := by
  rw [collected, Outcome.map_eq_ok_iff]
  exact ⟨fun ⟨⟨⟩, ended, same⟩ => ⟨ended, same⟩, fun ⟨ended, same⟩ => ⟨(), ended, same⟩⟩

end Printing

/-! ## What becomes of a command -/

namespace Command

/-- The commands about the image at a root. -/
def ofImage (root : Path) : List Command :=
  [list root, versions root, oldest root, check root]

/-- The query that a command asks. -/
def query : Command → Query
  | list root => .names root
  | versions root => .kernels root
  | oldest root => .oldest root
  | check root => .checkPresent root
  | host => .hostVersion

/-- The answer to the query of a command, for the module tree and the release command that settings
name. -/
def answered (settings : Settings) (surroundings : Surroundings) (command : Command) :
    Traced QueryError Answer :=
  command.query.answer (ModuleTree.ofDir settings.modulesDir)
    ⟨surroundings.directories, surroundings.programs.release settings.hostReleaseCommand⟩

/-- The lines that show the whole of an answer. -/
inductive Shows : Command → Answer → List String → Prop
  | list (root : Path) (names : List String) : Shows (.list root) (.names names) names
  | versions (root : Path) (kernels : List Kernel) :
    Shows (.versions root) (.kernels kernels)
      (kernels.map fun kernel => kernel.version.text ++ "\t" ++ kernel.name)
  | oldest (root : Path) (kernel : Kernel) :
    Shows (.oldest root) (.kernel kernel) [kernel.version.text ++ "\t" ++ kernel.name]
  | check (root : Path) :
    Shows (.check root) .present ["  [OK] kernel installed in " ++ root.text]
  | host (version : Version) : Shows .host (.version version) [version.text]

/-- What becomes of a command, once its query is answered: all lines of the answer are printed, or
nothing is and the error is passed on as it is. -/
inductive Tells (settings : Settings) (surroundings : Surroundings) (command : Command) :
    Printing Unit → Prop
  | whole {answer : Answer} {texts : List String}
    (found : (command.answered settings surroundings).outcome = .ok answer)
    (shown : command.Shows answer texts) :
    Tells settings surroundings command
      { outcome := .ok ()
        log := (command.answered settings surroundings).log
        calls := (command.answered settings surroundings).calls
        printed := String.join (texts.map fun text => text ++ "\n") }
  | nothing {error : QueryError}
    (failed : (command.answered settings surroundings).outcome = .error error) :
    Tells settings surroundings command
      { outcome := .error ⟨command.contexts, .query error⟩
        log := (command.answered settings surroundings).log
        calls := (command.answered settings surroundings).calls
        printed := "" }

section Tells

variable {settings : Settings} {surroundings : Surroundings} {command : Command}

/-- A command that asks its query and then prints lines of the answer tells it. -/
theorem tells_of_asking {α : Type} {asked : Traced QueryError α} (wrap : α → Answer)
    (same : command.answered settings surroundings = asked >>= fun a => pure (wrap a))
    {shown : α → Printing Unit} {texts : α → List String}
    (prints : ∀ a, shown a = ⟨pure (), String.join ((texts a).map line)⟩)
    (shows : ∀ a, command.Shows (wrap a) (texts a)) :
    command.Tells settings surroundings (command.asking asked >>= shown) := by
  rw [asking, Printing.silent_bind_of_prints _ prints]
  obtain ⟨outcome, log, calls⟩ := asked
  rw [Traced.bind_pure] at same
  cases outcome with
  | error e =>
    have failed : (command.answered settings surroundings).outcome = .error e := by rw [same]; rfl
    have told := Tells.nothing failed
    rw [same] at told
    exact told
  | ok a =>
    have found : (command.answered settings surroundings).outcome = .ok (wrap a) := by
      rw [same]; rfl
    have told := Tells.whole found (shows a)
    rw [same] at told
    exact told

/-- **What becomes of a command.** -/
theorem print_tells (settings : Settings) (surroundings : Surroundings) (command : Command) :
    command.Tells settings surroundings (command.print settings surroundings) := by
  cases command with
  | list root =>
    refine tells_of_asking .names rfl ?_ (Shows.list root)
    intro names
    exact Printing.printEach_eq line names
  | versions root =>
    refine tells_of_asking .kernels rfl ?_ (Shows.versions root)
    intro kernels
    rw [Printing.printEach_eq, List.map_map]
    rfl
  | oldest root =>
    refine tells_of_asking .kernel rfl ?_ (Shows.oldest root)
    intro kernel
    rfl
  | check root =>
    refine tells_of_asking (fun _ => .present) rfl ?_ fun _ => Shows.check root
    intro present
    rfl
  | host =>
    refine tells_of_asking .version rfl ?_ Shows.host
    intro version
    rfl

/-- A command that fails has printed nothing. -/
theorem Tells.printed_eq_empty {result : Printing Unit}
    (h : command.Tells settings surroundings result) {failure : Failure}
    (failed : result.outcome = .error failure) : result.printed = "" := by
  cases h with
  | whole found shown => cases failed
  | nothing _ => rfl

/-- A command asks for what its query asks for. -/
theorem Tells.calls_eq {result : Printing Unit} (h : command.Tells settings surroundings result) :
    result.calls = (command.answered settings surroundings).calls := by
  cases h <;> rfl

/-- **One scan serves a command about an image.** -/
theorem calls_print {root : Path} (member : command ∈ ofImage root) :
    (command.print settings surroundings).calls
      = (settings.moduleTree.names surroundings.directories root).calls := by
  rw [(print_tells settings surroundings command).calls_eq]
  refine Query.calls_answer settings.moduleTree _ root command.query ?_
  simp only [ofImage, List.mem_cons, List.not_mem_nil, or_false] at member
  rcases member with rfl | rfl | rfl | rfl <;> simp [query, Query.ofImage]

/-- No command fails as if it did not exist. -/
theorem Tells.outcome_ne_noCommand {result : Printing Unit}
    (h : command.Tells settings surroundings result) :
    result.outcome ≠ .error (.of .noCommand) := by
  cases h with
  | whole found shown =>
    intro failed
    cases failed
  | nothing _ =>
    intro failed
    cases congrArg Failure.root (Except.error.inj failed)

end Tells

/-! ## Words -/

/-- The words of a command: one and the root of an image, or one alone. -/
def words : Command → List String
  | list root => ["list", root.text]
  | versions root => ["versions", root.text]
  | oldest root => ["oldest", root.text]
  | check root => ["check", root.text]
  | host => ["host"]

/-- Words that are one of four with the root of an image, or the one about the host. -/
def AreSpelled (words : List String) : Prop :=
  (∃ name ∈ ["list", "versions", "oldest", "check"], ∃ root, words = [name, root])
    ∨ words = ["host"]

/-- Words spell something where they are those of a command. -/
theorem areSpelled_iff {words : List String} :
    AreSpelled words ↔ ∃ command : Command, words = command.words := by
  simp only [AreSpelled, List.mem_cons, List.not_mem_nil, or_false]
  constructor
  · rintro (⟨name, rfl | rfl | rfl | rfl, root, rfl⟩ | rfl)
    · exact ⟨.list ⟨root⟩, rfl⟩
    · exact ⟨.versions ⟨root⟩, rfl⟩
    · exact ⟨.oldest ⟨root⟩, rfl⟩
    · exact ⟨.check ⟨root⟩, rfl⟩
    · exact ⟨.host, rfl⟩
  · rintro ⟨command, rfl⟩
    cases command with
    | list root => exact .inl ⟨"list", .inl rfl, root.text, rfl⟩
    | versions root => exact .inl ⟨"versions", .inr (.inl rfl), root.text, rfl⟩
    | oldest root => exact .inl ⟨"oldest", .inr (.inr (.inl rfl)), root.text, rfl⟩
    | check root => exact .inl ⟨"check", .inr (.inr (.inr rfl)), root.text, rfl⟩
    | host => exact .inr rfl

/-- **A command is read off its own words and off no others.** -/
theorem ofWords?_eq_some_iff {words : List String} {command : Command} :
    ofWords? words = some command ↔ words = command.words := by
  constructor
  · intro spelled
    -- The cases are those of `ofWords?`.
    unfold ofWords? at spelled
    split at spelled <;> cases spelled <;> rfl
  · rintro rfl
    cases command <;> rfl

/-- Words that spell no command fail with the usage alone, having asked for nothing. -/
theorem printWords_of_not_spelled (settings : Settings) (surroundings : Surroundings)
    {words : List String} (unknown : ¬ AreSpelled words) :
    printWords settings surroundings words
      = { outcome := .error (.of .noCommand), log := [], calls := [], printed := "" } := by
  cases spelled : ofWords? words with
  | none =>
    rw [printWords, spelled]
    rfl
  | some command =>
    exact absurd (areSpelled_iff.mpr ⟨command, ofWords?_eq_some_iff.mp spelled⟩) unknown

/-- What becomes of the words of a command. -/
theorem printWords_tells (settings : Settings) (surroundings : Surroundings) (command : Command) :
    command.Tells settings surroundings (printWords settings surroundings command.words) := by
  rw [printWords, ofWords?_eq_some_iff.mpr rfl]
  exact print_tells settings surroundings command

/-- **Whatever fails, nothing has been printed.** -/
theorem printWords_printed_eq_empty {settings : Settings} {surroundings : Surroundings}
    {words : List String} {failure : Failure}
    (failed : (printWords settings surroundings words).outcome = .error failure) :
    (printWords settings surroundings words).printed = "" := by
  by_cases spelled : AreSpelled words
  · obtain ⟨command, rfl⟩ := areSpelled_iff.mp spelled
    exact (printWords_tells settings surroundings command).printed_eq_empty failed
  · rw [printWords_of_not_spelled settings surroundings spelled]

/-- **A command prints its whole result or nothing, and hides no cause.**  Whatever fails, nothing
has been printed.  Words fail with the usage exactly where they spell no command, and then nothing
is asked for.  A command that they spell prints all lines of the answer to its query, or passes on
the error of the query as it is, in the contexts of the command: one that names the root as given,
and none for the host.  Behind the contexts stand the texts of the error and of all its causes. -/
theorem printWords_whole_or_nothing (settings : Settings) (surroundings : Surroundings)
    (words : List String) :
    let result := printWords settings surroundings words
    (∀ failure, result.outcome = .error failure → result.printed = "")
    ∧ (result.outcome = .error (.of .noCommand) ↔ ¬ AreSpelled words)
    ∧ (¬ AreSpelled words → result.log = [] ∧ result.calls = [])
    ∧ (Failure.of .noCommand).chain = [usageOf commandForms]
    ∧ (∀ command : Command, words = command.words → command.Tells settings surroundings result)
    ∧ (∀ root, (list root).contexts = ["listing kernels in '" ++ root.text ++ "'"]
      ∧ (versions root).contexts = ["reading kernel versions in '" ++ root.text ++ "'"]
      ∧ (oldest root).contexts = ["finding oldest kernel in '" ++ root.text ++ "'"]
      ∧ (check root).contexts = ["checking for installed kernel in '" ++ root.text ++ "'"])
    ∧ host.contexts = []
    ∧ ∀ contexts error texts, (Failure.mk contexts (.query error)).chain = contexts ++ texts
      ↔ error.Tells texts := by
  intro result
  refine ⟨?_, ?_, ?_, congrArg (fun text => [text]) usage_eq, ?_,
    fun _ => ⟨rfl, rfl, rfl, rfl⟩, rfl, ?_⟩
  · intro failure failed
    exact printWords_printed_eq_empty failed
  · constructor
    · intro failed spelled
      obtain ⟨command, rfl⟩ := areSpelled_iff.mp spelled
      exact (printWords_tells settings surroundings command).outcome_ne_noCommand failed
    · intro unknown
      have ended : result = _ := printWords_of_not_spelled settings surroundings unknown
      rw [ended]
  · intro unknown
    have ended : result = _ := printWords_of_not_spelled settings surroundings unknown
    rw [ended]
    exact ⟨rfl, rfl⟩
  · rintro command rfl
    exact printWords_tells settings surroundings command
  · intro contexts error texts
    rw [← QueryError.chain_eq_iff]
    exact List.append_right_inj contexts

end Command

end KernelCensus
