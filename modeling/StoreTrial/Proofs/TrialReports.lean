import StoreTrial.Proofs.CheckFindings
import StoreTrial.Proofs.FailureLogs

/-! # What trials report

Whatever is required of engines and recorded by the tasks that share a trial, and however they take
turns: what was taken out of the failure log, followed by what is left in it, is what was recorded,
in its order (`StoreTrial.Trial.failures_accounted_for`). A trial that ends tells what is left. Only
a trial that ends while a panic is on its way keeps it to itself
(`StoreTrial.Trial.failure_untold_while_unwinding`). The engines are as they were.
-/

namespace StoreTrial

variable {σ : Type} {answer : (question : Question) → σ → question.Reply × σ}

/-- A question that reads from an engine, reports an event, or is about a failure log. -/
def Question.readsOrReports : Question → Bool
  | .call _ request => request.isReading
  | .log _ | .note _ _ | .drain _ => true
  | .openAt _ _ _ | .clear _ | .clock | .instant => false

namespace Act

variable {trial : Trial} {questions : List (σ × Question)} {ending : Outcome Unit}

theorem readsOrReports_of_map {questions : List (σ × Question)} {expected : List Question}
    (same : questions.map Prod.snd = expected)
    (all : ∀ question ∈ expected, question.readsOrReports = true) :
    ∀ turn ∈ questions, turn.2.readsOrReports = true := by
  intro turn member
  exact all turn.2 (same ▸ List.mem_map_of_mem member)

theorem readsOrReports_of_reports {finding : Finding} {asked : List Question}
    (reports : trial.Reports finding asked ending) :
    ∀ question ∈ asked, question.readsOrReports = true := by
  cases reports with
  | met | panicked message => simp
  | violated message => simp [Trial.recording, Question.readsOrReports]
  | refused message => simp [Trial.aborting, Question.readsOrReports]

theorem Asks.readsOrReports {act : Act} (asks : act.Asks answer trial questions ending) :
    ∀ turn ∈ questions, turn.2.readsOrReports = true := by
  cases asks with
  | require found reported =>
      intro turn member
      obtain called | told := List.mem_append.mp member
      · obtain rfl | ⟨state, handle, request, rfl, reads⟩ := found.reads
        · cases called
        · obtain rfl := List.mem_singleton.mp called
          exact reads
      · exact readsOrReports_of_map rfl (readsOrReports_of_reports reported) turn told
  | report asked =>
      exact readsOrReports_of_map asked (by simp [Trial.recording, Question.readsOrReports])
  | abort asked =>
      exact readsOrReports_of_map asked (by simp [Trial.aborting, Question.readsOrReports])
  | take state => simp [Question.readsOrReports]

theorem Done.readsOrReports {acts : List Act} (done : Done answer trial acts questions ending) :
    ∀ turn ∈ questions, turn.2.readsOrReports = true := by
  induction done with
  | nil => simp
  | next asks _ ih =>
      intro turn member
      obtain now | later := List.mem_append.mp member
      · exact asks.readsOrReports turn now
      · exact ih turn later
  | last asks => exact asks.readsOrReports

theorem noted_of_map {questions : List (σ × Question)} {expected : List Question}
    (same : questions.map Prod.snd = expected) :
    notedIn trial.ledger questions = expected.filterMap (Question.noted? trial.ledger) := by
  rw [← same, List.filterMap_map]
  rfl

/-- A check records one message or none. It makes at most one call, and records a message exactly
if its requirement is violated or what it depends on is a failure. It goes on exactly if what it
depends on is there. -/
theorem Asks.noted_require {requirement : Requirement}
    (asks : Asks answer trial (.require requirement) questions ending) :
    ∃ calls finding, requirement.Finds answer calls finding ∧ calls.length ≤ 1 ∧
      (notedIn trial.ledger questions).length =
        (if finding = .violated ∨ finding = .refused then 1 else 0) ∧
      (ending = .ok () ↔ finding = .met ∨ finding = .violated) := by
  cases asks with
  | @require _ calls reports finding _ found reported =>
      have called : notedIn trial.ledger calls = [] ∧ calls.length ≤ 1 := by
        obtain rfl | ⟨state, handle, request, rfl, _⟩ := found.reads
        · exact ⟨rfl, Nat.zero_le 1⟩
        · exact ⟨rfl, Nat.le_refl 1⟩
      have told : notedIn trial.ledger (calls ++ reports) =
          (reports.map Prod.snd).filterMap (Question.noted? trial.ledger) := by
        rw [← noted_of_map rfl, notedIn, List.filterMap_append]
        exact congrArg (· ++ _) called.1
      refine ⟨calls, finding, found, called.2, ?_⟩
      rw [told]
      generalize reports.map Prod.snd = asked at reported
      cases reported with
      | met => simp
      | violated message => simp [Trial.recording, List.filterMap_cons, Question.noted?]
      | refused message => simp [Trial.aborting, List.filterMap_cons, Question.noted?]
      | panicked message => simp

end Act

namespace Trial

open Script (Turn Interleaved questionsOf)

/-- What becomes of the failures of a trial whose tasks have taken these turns. -/
structure Accounted (answer : (question : Question) → σ → question.Reply × σ) (trial : Trial)
    (failures : σ → List String) (state : σ) (tasks : List (List Act))
    (turns : List (Turn σ Question)) (endings : List (Outcome Unit)) (left : σ)
    (panicking : Bool) : Prop where
  /-- Every task does what its acts ask of it, up to the first that aborts. -/
  acts : ∀ index acts, tasks[index]? = some acts → ∃ ending, endings[index]? = some ending ∧
    Act.Done answer trial acts (questionsOf turns index) ending
  /-- A check among them makes at most one call, records one message exactly if its requirement is
  violated or what it depends on is a failure, and goes on exactly if what it depends on is there. -/
  checks : ∀ requirement questions ending,
    Act.Asks answer trial (.require requirement) questions ending →
    ∃ calls finding, requirement.Finds answer calls finding ∧ calls.length ≤ 1 ∧
      (notedIn trial.ledger questions).length =
        (if finding = .violated ∨ finding = .refused then 1 else 0) ∧
      (ending = .ok () ↔ finding = .met ∨ finding = .violated)
  /-- What was taken and then what is left are what was recorded, in this order. -/
  conserved : (drainedFrom answer trial.ledger (turns.map Prod.snd)).flatten ++ failures left =
    notedIn trial.ledger (turns.map Prod.snd)
  /-- The end of the trial tells what is left, unless a panic is on its way. -/
  told : ((trial.finish panicking).dialogue.run answer left).1 =
    if panicking ∨ failures left = [] then .ok ()
    else .error (.panicked (trial.closingText (failures left)))
  /-- Engines are asked to read only. -/
  reads : ∀ turn ∈ turns, ∀ handle request, turn.2.2 = .call handle request →
    request.isReading = true
  /-- What reading, reporting and the failure log leave as it is has not changed in the end. -/
  kept : ∀ {ν : Type} (view : σ → ν), (∀ question state, question.readsOrReports = true →
      view (answer question state).2 = view state) →
    view ((trial.finish panicking).dialogue.run answer left).2 = view state

variable {trial : Trial} {failures : σ → List String} {state left : σ} {tasks : List (List Act)}
  {turns : List (Turn σ Question)} {endings : List (Outcome Unit)}

theorem done_of_interleaved
    (interleaved : Interleaved answer (tasks.map (Act.task trial)) state turns endings left)
    {index : Nat} {acts : List Act} (found : tasks[index]? = some acts) :
    ∃ ending, endings[index]? = some ending ∧
      Act.Done answer trial acts (questionsOf turns index) ending := by
  have script : (tasks.map (Act.task trial))[index]? = some (Act.task trial acts) := by
    rw [List.getElem?_map, found]
    rfl
  obtain ⟨ending, given, played⟩ := interleaved.shared.each script
  exact ⟨ending, given, Act.done_of_played played⟩

theorem readsOrReports_of_interleaved
    (interleaved : Interleaved answer (tasks.map (Act.task trial)) state turns endings left) :
    ∀ turn ∈ turns, turn.2.2.readsOrReports = true := by
  intro turn member
  have bound : turn.1 < tasks.length := by
    simpa using interleaved.shared.indices turn member
  obtain ⟨ending, _, done⟩ :=
    done_of_interleaved interleaved (List.getElem?_eq_getElem bound)
  apply done.readsOrReports turn.2
  exact List.mem_map_of_mem (List.mem_filter.mpr ⟨member, by simp⟩)

/-- The end of a trial leaves as it is what the failure log does. -/
theorem view_finish {ν : Type} (view : σ → ν)
    (kept : ∀ question state, question.readsOrReports = true →
      view (answer question state).2 = view state) (panicking : Bool) (state : σ) :
    view ((trial.finish panicking).dialogue.run answer state).2 = view state := by
  cases panicking with
  | true => rfl
  | false =>
      rw [run_finish]
      exact kept (.drain trial.ledger) state rfl

theorem accounted_of_interleaved (log : HoldsLog answer trial.ledger failures)
    (fresh : failures state = [])
    (interleaved : Interleaved answer (tasks.map (Act.task trial)) state turns endings left)
    (panicking : Bool) : Accounted answer trial failures state tasks turns endings left panicking := by
  have quiet := readsOrReports_of_interleaved interleaved
  refine ⟨fun index acts found => done_of_interleaved interleaved found,
    fun _ _ _ asks => asks.noted_require, ?_, ?_, ?_, ?_⟩
  · -- The turns are those of a schedule, and so of one dialogue, which keeps the log balanced.
    obtain ⟨ran, asked⟩ := interleaved.interleave
    have conserved := log.conserved
      (Script.interleave (turns.map Prod.fst) (tasks.map (Act.task trial))) state
    rw [asked, ran, fresh, List.nil_append] at conserved
    exact conserved
  · rw [ending_of_finish log panicking left, concluded]
    cases panicking with
    | true => rfl
    | false => simp
  · intro turn member handle request called
    have reads := quiet turn member
    rw [called] at reads
    exact reads
  · intro ν view kept
    rw [view_finish view kept panicking left]
    exact interleaved.view_eq fun turn member => kept _ _ (quiet turn member)

/-- **Every failure of a trial is told once, and in order**, unless the trial ends while a panic is on
its way. The tasks that share a trial require and record what they like, take the failures recorded
so far, and abort; they take turns under any schedule, and so in every way there is. What is done
after an abort was caught is a further task. -/
theorem failures_accounted_for (log : HoldsLog answer trial.ledger failures)
    (fresh : failures state = []) (tasks : List (List Act)) :
    (∀ schedule, ∃ turns endings left,
      (Script.interleave schedule (tasks.map (Act.task trial))).asked answer state =
          turns.map Prod.snd ∧
        (Script.interleave schedule (tasks.map (Act.task trial))).run answer state =
          (endings, left) ∧
        Interleaved answer (tasks.map (Act.task trial)) state turns endings left) ∧
    ∀ turns endings left,
      Interleaved answer (tasks.map (Act.task trial)) state turns endings left →
      ∀ panicking, Accounted answer trial failures state tasks turns endings left panicking := by
  constructor
  · intro schedule
    obtain ⟨turns, asked, interleaved⟩ : ∃ turns,
        (Script.interleave schedule (tasks.map (Act.task trial))).asked answer state =
          turns.map Prod.snd ∧ Interleaved answer (tasks.map (Act.task trial)) state turns _ _ :=
      Script.exists_interleaved schedule _ state
    exact ⟨turns, _, _, asked, rfl, interleaved⟩
  · intro turns endings left interleaved panicking
    exact accounted_of_interleaved log fresh interleaved panicking

end Trial

namespace World

/-- The files and the engines of a world. -/
def content (world : World) : Disk × Array Mounted := (world.disk, world.engines)

theorem content_callEngine {request : Request} (reads : request.isReading = true) (world : World)
    (handle : Handle) : (world.callEngine handle request).2.content = world.content := by
  have unreported : ∀ engine, callEvents engine request = [] := by
    intro engine
    cases request with
    | close => cases reads
    | put key value | get key | delete key | contains key => rfl
  rw [callEngine]
  split
  · rfl
  · rename_i mounted found
    have same : (mounted.engine.answer world.disk request).2 = (mounted.engine, world.disk) :=
      MemoryEngine.call_of_isReading reads _ _ _
    have still : world.engines.setIfInBounds handle mounted = world.engines := by
      apply Array.ext_getElem?
      intro other
      by_cases own : handle = other
      · subst own
        obtain ⟨inside, _⟩ := Array.getElem?_eq_some_iff.mp found
        rw [Array.getElem?_setIfInBounds_self_of_lt inside, found]
      · rw [Array.getElem?_setIfInBounds_ne own]
    cases answered : mounted.engine.answer world.disk request with
    | mk result rest =>
        obtain rfl : rest = (mounted.engine, world.disk) := by
          rw [answered] at same
          exact same
        cases result with
        | ok value =>
            dsimp only
            rw [unreported]
            exact congrArg (Prod.mk world.disk) still
        | error failure => exact congrArg (Prod.mk world.disk) still

/-- Memory engines and their files are as they were after questions that read or report, whatever
is planted before the engines. -/
theorem content_of_readsOrReports (question : Question) (world : World)
    (quiet : question.readsOrReports = true) :
    (World.answer question world).2.content = world.content := by
  cases question with
  | call handle request =>
      exact view_call (fun _ _ _ => rfl) (fun world => content_callEngine quiet world handle) world
  | log event | note ledger message | drain ledger => rfl
  | openAt opener location options | clear location | clock | instant => cases quiet

end World

namespace Trial

/-- A shared trial: one task finds a key missing and takes the failures so far, another meets its
requirement and then aborts. The abort comes after the failures were taken, so that the end of the
trial tells it, and the engine is as it was. -/
theorem failures_accounted_for_two_tasks :
    let trial : Trial := ⟨.test, "t", 0⟩
    let world : World :=
      { World.fresh "root" 0 with engines := #[⟨⟨"root", false, Store.empty, false⟩, none⟩] }
    let tasks : List (List Act) := [[.require (.keyPresent 0 [107]), .take],
      [.require (.holds true "fine"), .abort "stop", .report "never"]]
    ∃ turns endings left,
      (world.failures 0 = [] ∧ Script.Interleaved World.answer (tasks.map (Act.task trial)) world
        turns endings left) ∧
      Accounted World.answer trial (fun world => world.failures 0) world tasks turns endings left
        false ∧
      endings = [.ok (), .error (.panicked "t: stop")] ∧
      (drainedFrom World.answer 0 (turns.map Prod.snd)).flatten =
        ["expected key \"k\" to exist"] ∧
      ((trial.finish false).dialogue.run World.answer left).1 =
        .error (.panicked "test t recorded 1 failure(s):\n  stop") ∧
      ((trial.finish false).dialogue.run World.answer left).2.content = world.content := by
  intro trial world tasks
  have fresh : world.failures 0 = [] := by decide +kernel
  obtain ⟨scheduled, accounted⟩ :=
    failures_accounted_for (World.holdsLog trial.ledger) fresh tasks
  let script := Script.interleave [0, 1, 0, 0, 0] (tasks.map (Act.task trial))
  obtain ⟨turns, endings, left, asked, ran, interleaved⟩ := scheduled [0, 1, 0, 0, 0]
  have account := accounted turns endings left interleaved false
  have ended : endings = (script.run World.answer world).1 := by rw [ran]
  have reached : left = (script.run World.answer world).2 := by rw [ran]
  refine ⟨turns, endings, left, ⟨fresh, interleaved⟩, account, ?_, ?_, ?_, ?_⟩
  · rw [ended]
    decide +kernel
  · rw [← asked]
    decide +kernel
  · rw [account.told, reached]
    decide +kernel
  · exact account.kept World.content World.content_of_readsOrReports

/-- A trial that is ended by its own abort tells nothing: neither the failure that was recorded
before nor that of the abort was taken, and the end of the trial leaves both in the log. -/
theorem failure_untold_while_unwinding :
    let trial : Trial := ⟨.test, "t", 0⟩
    let world := World.fresh "root" 0
    let script := Act.task trial [.report "x", .abort "stop"]
    let left := (script.run World.answer world).2
    (script.run World.answer world).1 = .error (.panicked "t: stop") ∧
      notedIn 0 (script.asked World.answer world) = ["x", "stop"] ∧
      drainedFrom World.answer 0 (script.asked World.answer world) = [] ∧
      (trial.finish true).dialogue.asked World.answer left = [] ∧
      (trial.finish true).dialogue.run World.answer left = (.ok (), left) ∧
      left.failures 0 = ["x", "stop"] := by
  decide +kernel

end Trial

end StoreTrial
