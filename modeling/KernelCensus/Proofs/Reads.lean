/-
# What answers depend on

A query about an image depends on two things only: what is listed at the image's module tree, and
what probes of the listed entries answer.  The query about the build host depends on the answer of
the host only.  Nothing is carried from one query to the next, and no query changes anything, so
that queries may be left out of a session without a trace in what remains
(`Query.depends_on_reads_only`).
-/
import KernelCensus.Fixture
import KernelCensus.Session
import KernelCensus.Proofs.Resolution

namespace KernelCensus

/-! ## Worlds that agree -/

/-- Two worlds in which the same is listed at a directory, and probes of the listed entries answer
the same. -/
structure Directories.AgreeAt (dirs dirs' : Directories) (directory : Path) : Prop where
  list : dirs.list directory = dirs'.list directory
  isEmpty : ∀ name ∈ dirs.listed directory,
    dirs.isEmpty (directory.entry name) = dirs'.isEmpty (directory.entry name)

namespace ModuleTree

/-- **A scan depends on what it reads only.** -/
theorem names_congr {tree : ModuleTree} {root : Path} {dirs dirs' : Directories}
    (agree : dirs.AgreeAt dirs' (tree.path root)) :
    tree.names dirs root = tree.names dirs' root := by
  obtain ⟨list, isEmpty⟩ := agree
  cases listing : dirs.list (tree.path root) with
  | error e =>
    rw [listing] at list
    rw [names_of_list_error listing, names_of_list_error list.symm]
  | ok listed =>
    rw [Directories.listed, listing] at isEmpty
    rw [listing] at list
    rw [names_of_list_ok listing, names_of_list_ok list.symm, probeEntries_congr isEmpty]

/-- What rests on a scan depends on what the scan reads only. -/
theorem RestsOnScan.congr {α : Type} {tree : ModuleTree} {root : Path}
    {ask : Outside → Traced QueryError α} (rests : tree.RestsOnScan root ask)
    {outside outside' : Outside}
    (agree : outside.directories.AgreeAt outside'.directories (tree.path root)) :
    ask outside = ask outside' := by
  obtain ⟨conclude, -, rests⟩ := rests
  rw [rests, rests, names_congr agree]

end ModuleTree

namespace Query

/-- **Queries about an image depend on what is read of the image only.** -/
theorem answer_congr {tree : ModuleTree} {root : Path} {outside outside' : Outside}
    (agree : outside.directories.AgreeAt outside'.directories (tree.path root)) :
    ∀ query ∈ ofImage root, query.answer tree outside = query.answer tree outside' := by
  intro query asked
  exact (restsOnScan_answer tree root query asked).congr agree

/-- The query about the host depends on the answer of the host only. -/
theorem answer_hostVersion_congr (tree tree' : ModuleTree) {outside outside' : Outside}
    (release : outside.release = outside'.release) :
    hostVersion.answer tree outside = hostVersion.answer tree' outside' := by
  rw [answer, answer, release]

end Query

/-! ## Steps left out -/

section Omits

variable {α : Type}

/-- A list without some of the elements that satisfy a predicate. -/
inductive Omits (p : α → Prop) : List α → List α → Prop
  | nil : Omits p [] []
  | keep (a : α) {xs ys : List α} (h : Omits p xs ys) : Omits p (a :: xs) (a :: ys)
  | drop {a : α} (satisfied : p a) {xs ys : List α} (h : Omits p xs ys) : Omits p (a :: xs) ys

variable {σ ι ρ : Type}

/-- The steps of a session with their replies, where a step has a reply to it in a state and leads
on to a state. -/
def transcript (reply : σ → ι → ρ) (after : σ → ι → σ) (state : σ) : List ι → List (ι × ρ)
  | [] => []
  | step :: steps => (step, reply state step) :: transcript reply after (after state step) steps

/-- **Steps that change nothing can be left out**: all others have the same replies without them. -/
theorem Omits.transcript {p : ι → Prop} {reply : σ → ι → ρ} {after : σ → ι → σ}
    (idle : ∀ state step, p step → after state step = state) {steps steps' : List ι}
    (h : Omits p steps steps') (state : σ) :
    Omits (fun pair => p pair.1) (transcript reply after state steps)
      (transcript reply after state steps') := by
  induction h generalizing state with
  | nil => exact .nil
  | keep step _ ih => exact .keep _ (ih (after state step))
  | drop satisfied _ ih =>
    rw [KernelCensus.transcript, idle state _ satisfied]
    refine .drop ?_ (ih state)
    exact satisfied

end Omits

/-! ## Sessions with a fixture -/

namespace Fixture

/-- A step that asks. -/
def Step.Asks (step : Step) : Prop :=
  ∃ query, step = .ask query

/-- The fixture that steps lead to. -/
def reached (fixture : Fixture) (steps : List Step) : Fixture :=
  steps.foldl after fixture

/-- **Every reply is told by the fixture that the steps before have led to.** -/
theorem getElem?_replay (fixture : Fixture) (steps : List Step) (k : Nat) :
    (fixture.replay steps)[k]? = steps[k]?.map (fixture.reached (steps.take k)).reply := by
  induction steps generalizing fixture k with
  | nil => rfl
  | cons step steps ih =>
    cases k with
    | zero => rfl
    | succ k =>
      rw [replay, List.getElem?_cons_succ, List.getElem?_cons_succ, ih]
      rfl

/-- The replies to the steps of a session are those of its transcript. -/
theorem transcript_eq_zip (fixture : Fixture) (steps : List Step) :
    transcript reply after fixture steps = steps.zip (fixture.replay steps) := by
  induction steps generalizing fixture with
  | nil => rfl
  | cons step steps ih => rw [transcript, ih, replay, List.zip_cons_cons]

/-- Asking leaves a fixture as it is. -/
theorem after_of_asks (fixture : Fixture) {step : Step} (asks : step.Asks) :
    fixture.after step = fixture := by
  obtain ⟨query, rfl⟩ := asks
  rfl

/-- The reply to a query, at the moment at which it is asked. -/
theorem getElem?_replay_of_ask {fixture : Fixture} {steps : List Step} {k : Nat} {query : Query}
    (asked : steps[k]? = some (.ask query)) :
    (fixture.replay steps)[k]?
      = some (.answered (query.answer {} (fixture.reached (steps.take k)).outside)) := by
  rw [getElem?_replay, asked]
  rfl

end Fixture

/-! ## Sessions in a system -/

/-- A step that asks about an image. -/
def Session.Step.AsksAboutImage {ε : Type} (step : Session.Step ε) : Prop :=
  ∃ root, ∃ query ∈ Query.ofImage root, step = .ask query

namespace System

variable {σ ε : Type} (system : System σ ε)

/-- Asking about an image leaves a system and the settings as they are. -/
theorem after_of_asksAboutImage (session : Session σ) {step : Session.Step ε}
    (asks : step.AsksAboutImage) : system.after session step = session := by
  obtain ⟨root, query, member, rfl⟩ := asks
  simp only [Query.ofImage, List.mem_cons, List.not_mem_nil, or_false] at member
  rcases member with rfl | rfl | rfl | rfl | rfl | rfl <;> rfl

/-- The replies to the steps of a session are those of its transcript. -/
theorem transcript_eq_zip (session : Session σ) (steps : List (Session.Step ε)) :
    transcript system.reply system.after session steps
      = steps.zip (system.replay session steps) := by
  induction steps generalizing session with
  | nil => rfl
  | cons step steps ih => rw [transcript, ih, replay, List.zip_cons_cons]

end System

/-- **Answers depend on what is read only, and queries leave no trace.**  Wherever two worlds agree
on what is listed at the module tree and on the probes of the listed entries, every query about the
image has the same outcome, log and calls; where they agree on the answer of the host, so has the
query about the host.  That is so for any two moments of a session, whatever was done in between.
If queries are left out of a session, all other steps have the replies that they had; in any system,
whatever its programs do to it, queries about images can be left out of everything else that is done
there. -/
theorem Query.depends_on_reads_only (tree : ModuleTree) (root : Path) :
    (∀ outside outside' : Outside,
      outside.directories.AgreeAt outside'.directories (tree.path root) →
      ∀ query ∈ ofImage root, query.answer tree outside = query.answer tree outside')
    ∧ (∀ (tree' : ModuleTree) (outside outside' : Outside), outside.release = outside'.release →
      hostVersion.answer tree outside = hostVersion.answer tree' outside')
    ∧ (∀ (fixture : Fixture) (steps : List Fixture.Step) (i j : Nat),
      let first := fixture.reached (steps.take i)
      let second := fixture.reached (steps.take j)
      (first.directories.AgreeAt second.directories (ModuleTree.path {} root) →
        ∀ query ∈ ofImage root, steps[i]? = some (.ask query) → steps[j]? = some (.ask query) →
          (fixture.replay steps)[i]? = (fixture.replay steps)[j]?)
      ∧ (first.host = second.host →
        steps[i]? = some (.ask .hostVersion) → steps[j]? = some (.ask .hostVersion) →
          (fixture.replay steps)[i]? = (fixture.replay steps)[j]?))
    ∧ (∀ (fixture : Fixture) (steps steps' : List Fixture.Step),
      Omits Fixture.Step.Asks steps steps' →
      Omits (fun told => told.1.Asks) (steps.zip (fixture.replay steps))
        (steps'.zip (fixture.replay steps')))
    ∧ ∀ (σ ε : Type) (system : System σ ε) (session : Session σ)
      (steps steps' : List (Session.Step ε)),
      Omits Session.Step.AsksAboutImage steps steps' →
      Omits (fun told => told.1.AsksAboutImage) (steps.zip (system.replay session steps))
        (steps'.zip (system.replay session steps')) := by
  refine ⟨?_, ?_, ?_, ?_, ?_⟩
  · intro outside outside' agree
    exact answer_congr agree
  · intro tree' outside outside' release
    exact answer_hostVersion_congr tree tree' release
  · intro fixture steps i j first second
    constructor
    · intro agree query asked asked_first asked_second
      have same : query.answer {} first.outside = query.answer {} second.outside :=
        answer_congr agree query asked
      rw [Fixture.getElem?_replay_of_ask asked_first, Fixture.getElem?_replay_of_ask asked_second]
      exact congrArg (some ∘ Fixture.Reply.answered) same
    · intro release asked_first asked_second
      have same : hostVersion.answer {} first.outside = hostVersion.answer {} second.outside :=
        answer_hostVersion_congr {} {} release
      rw [Fixture.getElem?_replay_of_ask asked_first, Fixture.getElem?_replay_of_ask asked_second]
      exact congrArg (some ∘ Fixture.Reply.answered) same
  · intro fixture steps steps' left_out
    rw [← Fixture.transcript_eq_zip, ← Fixture.transcript_eq_zip]
    exact left_out.transcript (fun state step => state.after_of_asks) fixture
  · intro σ ε system session steps steps' left_out
    rw [← System.transcript_eq_zip, ← System.transcript_eq_zip]
    exact left_out.transcript (fun _ _ => system.after_of_asksAboutImage _) session

/-- A session that, between two moments at which it asks the same, changes what is in a kernel
directory, what is in another image, and the answer of the host. -/
theorem Query.depends_on_reads_only_elsewhere :
    let fixture : Fixture :=
      { dirs := [(⟨"image/lib/modules"⟩, ["6.8", "5.4"]), (⟨"image/lib/modules/5.4"⟩, []),
          (⟨"image/lib/modules/6.8"⟩, ["kernel"])] }
    let steps : List Fixture.Step :=
      [.ask (.oldest ⟨"image"⟩), .edit (.setDir ⟨"image/lib/modules/6.8"⟩ ["kernel", "updates"]),
        .edit (.setDir ⟨"other/lib/modules"⟩ ["5.4"]), .edit (.setHost (.ok "6.1")),
        .ask (.oldest ⟨"image"⟩)]
    (fixture.reached (steps.take 0)).directories.AgreeAt
      (fixture.reached (steps.take 4)).directories ⟨"image/lib/modules"⟩
    ∧ (fixture.replay steps)[0]? = (fixture.replay steps)[4]? := by
  intro fixture steps
  have agree : (fixture.reached (steps.take 0)).directories.AgreeAt
      (fixture.reached (steps.take 4)).directories (ModuleTree.path {} ⟨"image"⟩) :=
    ⟨by decide +kernel, by decide +kernel⟩
  obtain ⟨-, -, moments, -⟩ := depends_on_reads_only {} ⟨"image"⟩
  exact ⟨agree, (moments fixture steps 0 4).1 agree (.oldest ⟨"image"⟩) (by decide) rfl rfl⟩

end KernelCensus
