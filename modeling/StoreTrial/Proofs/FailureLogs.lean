import StoreTrial.Proofs.InterleavedScripts
import StoreTrial.Proofs.MountedEngines
import StoreTrial.Trial.Basic

/-! # Failure logs

No failure is lost in a log, told twice, or told out of order: along any dialogue what the drains of
the log have given, followed by what it holds in the end, is what it held before, followed by what
was noted in the meantime (`StoreTrial.HoldsLog.conserved`). The logs of a world are such logs, and
a trial that ends tells what is left in its log, unless a panic is on its way.
-/

namespace StoreTrial

variable {σ α : Type} {answer : (question : Question) → σ → question.Reply × σ}
  {ledger : Ledger} {failures : σ → List String}

/-- Whether a question is about a log. -/
def Question.concerns (ledger : Ledger) : Question → Bool
  | .note other _ | .drain other => other == ledger
  | _ => false

/-- A log from the outside: in each state it holds some failures. A note adds to its end, a drain
gives and takes all of it, and nothing else changes it. -/
structure HoldsLog (answer : (question : Question) → σ → question.Reply × σ) (ledger : Ledger)
    (failures : σ → List String) : Prop where
  noted : ∀ message state,
    failures (answer (.note ledger message) state).2 = failures state ++ [message]
  given : ∀ state, (answer (.drain ledger) state).1 = failures state
  emptied : ∀ state, failures (answer (.drain ledger) state).2 = []
  others : ∀ question state, question.concerns ledger = false →
    failures (answer question state).2 = failures state

/-- What a question notes in a log, if anything. -/
def Question.noted? (ledger : Ledger) : Question → Option String
  | .note other message => if other = ledger then some message else none
  | _ => none

/-- What a question takes out of a log, if it drains it. -/
def Question.drained? (answer : (question : Question) → σ → question.Reply × σ) (ledger : Ledger)
    (state : σ) : Question → Option (List String)
  | .drain other => if other = ledger then some (answer (.drain other) state).1 else none
  | _ => none

/-- The failures that are noted in a log along some questions. -/
def notedIn (ledger : Ledger) (asked : List (σ × Question)) : List String :=
  asked.filterMap fun turn => turn.2.noted? ledger

/-- What the drains of a log give along some questions. -/
def drainedFrom (answer : (question : Question) → σ → question.Reply × σ) (ledger : Ledger)
    (asked : List (σ × Question)) : List (List String) :=
  asked.filterMap fun turn => turn.2.drained? answer ledger turn.1

theorem notedIn_cons (turn : σ × Question) (rest : List (σ × Question)) :
    notedIn ledger (turn :: rest) = (turn.2.noted? ledger).toList ++ notedIn ledger rest := by
  rw [notedIn, List.filterMap_cons]
  cases turn.2.noted? ledger with
  | none => rfl
  | some message => rfl

theorem flatten_drainedFrom_cons (turn : σ × Question) (rest : List (σ × Question)) :
    (drainedFrom answer ledger (turn :: rest)).flatten =
      (turn.2.drained? answer ledger turn.1).getD [] ++
        (drainedFrom answer ledger rest).flatten := by
  rw [drainedFrom, List.filterMap_cons]
  cases turn.2.drained? answer ledger turn.1 with
  | none => rfl
  | some given => rfl

namespace HoldsLog

/-- One question keeps the balance of a log. -/
theorem balanced (log : HoldsLog answer ledger failures) (question : Question) (state : σ) :
    (question.drained? answer ledger state).getD [] ++ failures (answer question state).2 =
      failures state ++ (question.noted? ledger).toList := by
  cases concerned : question.concerns ledger with
  | false =>
      rw [log.others question state concerned]
      cases question with
      | note other message =>
          have different : other ≠ ledger := by simpa [Question.concerns] using concerned
          simp [Question.drained?, Question.noted?, different]
      | drain other =>
          have different : other ≠ ledger := by simpa [Question.concerns] using concerned
          simp [Question.drained?, Question.noted?, different]
      | call handle request | openAt opener location options | clear location | clock | instant
      | log event => simp [Question.drained?, Question.noted?]
  | true =>
      cases question with
      | note other message =>
          obtain rfl : other = ledger := by simpa [Question.concerns] using concerned
          simp [Question.drained?, Question.noted?, log.noted]
      | drain other =>
          obtain rfl : other = ledger := by simpa [Question.concerns] using concerned
          simp [Question.drained?, Question.noted?, log.given, log.emptied]
      | call handle request | openAt opener location options | clear location | clock | instant
      | log event => cases concerned

/-- **No failure is lost, doubled or moved.** -/
theorem conserved (log : HoldsLog answer ledger failures) (dialogue : Dialogue α) (state : σ) :
    (drainedFrom answer ledger (dialogue.asked answer state)).flatten ++
        failures (dialogue.run answer state).2 =
      failures state ++ notedIn ledger (dialogue.asked answer state) := by
  -- By induction on the dialogue, over all states: each question keeps the balance that the rest
  -- of the dialogue starts from.
  induction dialogue generalizing state with
  | done value => simp [Script.asked, Script.run, drainedFrom, notedIn]
  | ask question next ih =>
      let reply := (answer question state).1
      let left := (answer question state).2
      have later : (drainedFrom answer ledger ((next reply).asked answer left)).flatten ++
          failures ((next reply).run answer left).2 =
            failures left ++ notedIn ledger ((next reply).asked answer left) := ih reply left
      rw [Script.asked, Script.run, flatten_drainedFrom_cons, notedIn_cons, List.append_assoc,
        later, ← List.append_assoc, log.balanced question state, List.append_assoc]

end HoldsLog

namespace Trial

/-- How a trial ends that has these failures left in its log. -/
def concluded (trial : Trial) (left : List String) : Outcome Unit :=
  if left = [] then .ok () else .error (.panicked (trial.closingText left))

theorem dialogue_finish (trial : Trial) :
    (trial.finish false).dialogue =
      .ask (.drain trial.ledger) fun left => .done (trial.concluded left) := by
  refine congrArg (Script.ask _) (funext fun left => ?_)
  cases left with
  | nil => rfl
  | cons message rest => rfl

/-- Where no panic is on its way a trial ends with what its log gives. -/
theorem run_finish (trial : Trial) (state : σ) :
    (trial.finish false).dialogue.run answer state =
      (trial.concluded (answer (.drain trial.ledger) state).1,
        (answer (.drain trial.ledger) state).2) := by
  rw [dialogue_finish]
  rfl

/-- A panic on its way is left alone; otherwise the failures that are left in the log make the trial
panic. -/
theorem ending_of_finish {trial : Trial} (log : HoldsLog answer trial.ledger failures)
    (panicking : Bool) (state : σ) :
    ((trial.finish panicking).dialogue.run answer state).1 =
      if panicking then .ok () else trial.concluded (failures state) := by
  cases panicking with
  | true => rfl
  | false => rw [run_finish, log.given state, if_neg Bool.false_ne_true]

end Trial

namespace World

theorem ledgers_call (world : World) (handle : Handle) (request : Request) :
    (world.call handle request).2.ledgers = world.ledgers := by
  refine view_call (fun _ _ _ => rfl) (fun world => ?_) world
  obtain ⟨disk, engines, journal, left⟩ := world.exists_callEngine_eq handle request
  rw [left]

theorem ledgers_openAt (world : World) (opener : Opener) (location : String)
    (options : EngineOptions) : (world.openAt opener location options).2.ledgers = world.ledgers := by
  rw [openAt]
  split
  · rfl
  · rw [mount]
    dsimp only
    split
    · rfl
    · rfl

theorem failures_place (world : World) (ledger other : Ledger) (held : List String) :
    ({ world with ledgers := place world.ledgers other held } : World).failures ledger =
      if ledger = other then held else world.failures ledger := by
  rw [failures, place, Lookup.lookup_entry_cons, Lookup.lookup_filter_ne]
  split
  · rfl
  · rfl

/-- The logs of a world. -/
theorem holdsLog (ledger : Ledger) : HoldsLog World.answer ledger fun world => world.failures ledger
    where
  noted := fun message world => by
    rw [answer, failures_place, if_pos rfl]
  given := fun world => rfl
  emptied := fun world => by
    rw [answer, failures_place, if_pos rfl]
  others := fun question world apart => by
    cases question with
    | note other message =>
        have different : other ≠ ledger := by simpa [Question.concerns] using apart
        rw [answer, failures_place, if_neg different.symm]
    | drain other =>
        have different : other ≠ ledger := by simpa [Question.concerns] using apart
        rw [answer, failures_place, if_neg different.symm]
    | call handle request => rw [failures, answer, ledgers_call, failures]
    | openAt opener location options => rw [failures, answer, ledgers_openAt, failures]
    | clear location | clock | instant | log event => rfl

end World

end StoreTrial
