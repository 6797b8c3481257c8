import StoreTrial.Sampler

/-! # Dialogues of a lease

What a dialogue does: its questions that are not about the time and report no event, each with
what was replied (`StoreTrial.Script.deeds`). A lease that is granted has opened its engine at its
location (`StoreTrial.Provisioner.dialogue_lease`). Giving it back closes the engine, notes a
failure to close it that is none of its being closed already, and removes the location, in this
order (`StoreTrial.Lease.does_release`).
-/

namespace StoreTrial

/-- A question of the harness with what was replied. -/
abbrev Exchange := (question : Question) × question.Reply

/-- Whether a question is about more than the time or a report. -/
def Question.isDeed : Question → Bool
  | .clock | .instant | .log _ => false
  | .call _ _ | .openAt _ _ _ | .clear _ | .note _ _ | .drain _ => true

/-- A question and its reply, if it is a deed. -/
def Question.deed (question : Question) (reply : question.Reply) : List Exchange :=
  if question.isDeed then [⟨question, reply⟩] else []

variable {σ ε α β : Type} {answer : (question : Question) → σ → question.Reply × σ}

namespace Script

def deeds (answer : (question : Question) → σ → question.Reply × σ) :
    Dialogue α → σ → List Exchange
  | .done _, _ => []
  | .ask question next, state =>
      question.deed (answer question state).1 ++
        (next (answer question state).1).deeds answer (answer question state).2

theorem deeds_bind (dialogue : Dialogue α) (rest : α → Dialogue β) (state : σ) :
    (dialogue.bind rest).deeds answer state =
      dialogue.deeds answer state ++
        (rest (dialogue.run answer state).1).deeds answer (dialogue.run answer state).2 := by
  induction dialogue generalizing state with
  | done value => rfl
  | ask question next ih => simp only [bind, deeds, run, ih, List.append_assoc]

end Script

/-- From one state a dialogue does this and gives this value in another state. -/
structure Dialogue.Does (answer : (question : Question) → σ → question.Reply × σ)
    (dialogue : Dialogue α) (before : σ) (made : List Exchange) (value : α) (after : σ) : Prop where
  deeds : dialogue.deeds answer before = made
  run : dialogue.run answer before = (value, after)

namespace Dialogue

variable {before middle after : σ} {made more : List Exchange}

theorem Does.done (value : α) (state : σ) : Does answer (.done value) state [] value state :=
  ⟨rfl, rfl⟩

theorem Does.bind {dialogue : Dialogue α} {rest : α → Dialogue β} {value : α} {last : β}
    (first : Does answer dialogue before made value middle)
    (second : Does answer (rest value) middle more last after) :
    Does answer (dialogue.bind rest) before (made ++ more) last after where
  deeds := by rw [Script.deeds_bind, first.deeds, first.run, second.deeds]
  run := by rw [Script.run_bind, first.run, second.run]

theorem Does.ask {question : Question} {next : question.Reply → Dialogue α} {value : α}
    (later : Does answer (next (answer question before).1) (answer question before).2 made value
      after) :
    Does answer (.ask question next) before (question.deed (answer question before).1 ++ made) value
      after :=
  ⟨congrArg (_ ++ ·) later.deeds, later.run⟩

theorem Does.asked {question : Question} {next : question.Reply → Dialogue α} {value : α}
    {reply : question.Reply} (replied : answer question before = (reply, middle))
    (later : Does answer (next reply) middle made value after) :
    Does answer (.ask question next) before (question.deed reply ++ made) value after := by
  have asks : Does answer (.ask question next) before
      (question.deed (answer question before).1 ++ made) value after := by
    apply Does.ask
    rw [replied]
    exact later
  rwa [replied] at asks

theorem does_log (event : Event) (state : σ) :
    Does answer (Dialogue.log event) state [] () (answer (.log event) state).2 :=
  ⟨rfl, rfl⟩

theorem does_record (trial : Trial) (message : String) (state : σ) :
    ∃ after, Does answer (trial.record message) state [⟨.note trial.ledger message, ()⟩] () after :=
  ⟨_, rfl, rfl⟩

end Dialogue

namespace Provisioner

theorem dialogue_bind (first : Provisioning ε α) (rest : α → Provisioning ε β)
    (provisioner : Provisioner ε) :
    dialogue (first >>= rest) provisioner = (dialogue first provisioner).bind fun ended =>
      match ended.1 with
      | .ok value => dialogue (rest value) ended.2
      | .error stop => .done (.error stop, ended.2) := by
  refine congrArg (Script.bind _) (funext fun ended => ?_)
  obtain ⟨outcome, left⟩ := ended
  cases outcome <;> rfl

theorem dialogue_tryCatch (first : Provisioning ε α) (handler : Stop → Provisioning ε α)
    (provisioner : Provisioner ε) :
    dialogue (tryCatch first handler) provisioner = (dialogue first provisioner).bind fun ended =>
      match ended.1 with
      | .ok value => .done (.ok value, ended.2)
      | .error stop => dialogue (handler stop) ended.2 := by
  refine congrArg (Script.bind _) (funext fun ended => ?_)
  obtain ⟨outcome, left⟩ := ended
  cases outcome <;> rfl

theorem dialogue_pure (value : α) (provisioner : Provisioner ε) :
    dialogue (pure value) provisioner = .done (.ok value, provisioner) := rfl

theorem dialogue_get (provisioner : Provisioner ε) :
    dialogue get provisioner = .done (.ok provisioner, provisioner) := rfl

theorem dialogue_set (next provisioner : Provisioner ε) :
    dialogue (set next) provisioner = .done (.ok PUnit.unit, next) := rfl

theorem dialogue_clock (provisioner : Provisioner ε) :
    dialogue (liftM clock) provisioner = .ask .clock fun time => .done (.ok time, provisioner) :=
  rfl

theorem dialogue_ofResult (result : Except Failure α) (provisioner : Provisioner ε) :
    dialogue (liftM (ofResult result)) provisioner =
      .done (Outcome.ofResult result, provisioner) :=
  rfl

def refuse (owner : Trial) (failure : Failure) (left : Provisioner ε) :
    Dialogue (Outcome Lease × Provisioner ε) :=
  (owner.abort (refusalText failure) : Procedure Lease).dialogue.bind fun outcome =>
    .done (outcome, left)

/-- The dialogue of a lease after an engine was opened at its location. -/
def afterOpening (owner : Trial) (location : String) (left : Provisioner ε) :
    (opened : Except Failure Handle) → Dialogue (Outcome Lease × Provisioner ε)
  | .error failure => refuse owner failure left
  | .ok handle => .ask (.log (.instanceProvisioned location)) fun _ =>
      .done (.ok ⟨location, handle, owner, false⟩, left)

def openLease (owner : Trial) (location : String) (left : Provisioner ε) :
    Dialogue (Outcome Lease × Provisioner ε) :=
  .ask (.openAt left.opener location (optionsAt left.settings location))
    (afterOpening owner location left)

/-- The dialogue of opening a fresh engine after the opener was asked for it. -/
def settleOpening (location : String) (left : Provisioner ε) :
    (opened : Except Failure Handle) → Dialogue (Outcome (String × Handle) × Provisioner ε)
  | .error failure => .done (.error (.failed failure), left)
  | .ok handle => .ask (.log (.instanceProvisioned location)) fun _ =>
      .done (.ok (location, handle), left)

variable [EntropySource ε]

/-- The location that is chosen at a time of day, or why there is none, and the source after the
choice. -/
def choice (provisioner : Provisioner ε) (time : Int) : Except Failure String × ε :=
  match sinceEpoch time with
  | .error failure => (.error failure, provisioner.source)
  | .ok nanos =>
      let (result, source) := EntropySource.fill provisioner.source Location.suffixSize
      (result.map (Location.path provisioner.settings nanos), source)

theorem choice_of_drawn {provisioner : Provisioner ε} {suffix : Filled Location.suffixSize}
    {source : ε} (nanos : Nat)
    (drawn : EntropySource.fill provisioner.source Location.suffixSize = (.ok suffix, source)) :
    provisioner.choice nanos = (.ok (Location.path provisioner.settings nanos suffix), source) := by
  rw [choice, sinceEpoch_natCast, drawn]
  rfl

/-- A location is named when the time has been read. -/
theorem dialogue_nameLocation (provisioner : Provisioner ε) :
    dialogue nameLocation provisioner = .ask .clock fun time =>
      .done (.ofResult (provisioner.choice time).1,
        { provisioner with source := (provisioner.choice time).2 }) := by
  simp only [nameLocation, drawSuffix, dialogue_bind, dialogue_pure, dialogue_get, dialogue_set,
    dialogue_clock, dialogue_ofResult, Script.bind]
  refine congrArg (Script.ask Question.clock) (funext fun time => ?_)
  unfold choice
  cases sinceEpoch time with
  | error failure => rfl
  | ok nanos =>
      cases EntropySource.fill provisioner.source Location.suffixSize with
      | mk filled source => cases filled <;> rfl

/-- **A fresh engine is opened in these steps.** The settings are checked, the time is read, a
location is chosen, and the opener is asked; the first step that goes wrong is the last one. -/
theorem dialogue_openFresh (provisioner : Provisioner ε) :
    dialogue openFresh provisioner =
      match provisioner.settings.validate with
      | .error failure => .done (.error (.failed failure), provisioner)
      | .ok () => .ask .clock fun time =>
          match provisioner.choice time with
          | (.error failure, source) =>
              .done (.error (.failed failure), { provisioner with source := source })
          | (.ok location, source) =>
              .ask (.openAt provisioner.opener location (optionsAt provisioner.settings location))
                (settleOpening location { provisioner with source := source }) := by
  simp only [openFresh, dialogue_bind, dialogue_pure, dialogue_get, dialogue_ofResult,
    dialogue_nameLocation, Script.bind]
  cases provisioner.settings.validate with
  | error failure => rfl
  | ok valid =>
      refine congrArg (Script.ask Question.clock) (funext fun time => ?_)
      cases provisioner.choice time with
      | mk chosen source =>
          cases chosen with
          | error failure => rfl
          | ok location =>
              refine congrArg (Script.ask _) (funext fun opened => ?_)
              cases opened <;> rfl

/-- A lease is a fresh engine, or aborts the trial with what went wrong. -/
theorem dialogue_lease_eq_bind (owner : Trial) (provisioner : Provisioner ε) :
    dialogue (lease owner) provisioner = (dialogue openFresh provisioner).bind fun ended =>
      match ended.1 with
      | .ok (location, handle) => .done (.ok ⟨location, handle, owner, false⟩, ended.2)
      | .error (.failed failure) => refuse owner failure ended.2
      | .error (.panicked message) => .done (.error (.panicked message), ended.2) := by
  rw [lease, dialogue_bind, dialogue_tryCatch]
  apply (Script.bind_assoc _ _ _).trans
  refine congrArg (Script.bind _) (funext fun ended => ?_)
  match ended with
  | (.ok (location, handle), left) => rfl
  | (.error (.failed failure), left) => rfl
  | (.error (.panicked message), left) => rfl

/-- **A lease is had in these steps.** The settings are checked, the time is read, a location is
chosen, and the engine is opened; the first step that goes wrong aborts the trial. -/
theorem dialogue_lease (owner : Trial) (provisioner : Provisioner ε) :
    dialogue (lease owner) provisioner =
      match provisioner.settings.validate with
      | .error failure => refuse owner failure provisioner
      | .ok () => .ask .clock fun time =>
          match provisioner.choice time with
          | (.error failure, source) => refuse owner failure { provisioner with source := source }
          | (.ok location, source) =>
              openLease owner location { provisioner with source := source } := by
  rw [dialogue_lease_eq_bind, dialogue_openFresh]
  cases provisioner.settings.validate with
  | error failure => rfl
  | ok valid =>
      refine congrArg (Script.ask Question.clock) (funext fun time => ?_)
      dsimp only
      cases provisioner.choice time with
      | mk chosen source =>
          cases chosen with
          | error failure => rfl
          | ok location =>
              refine congrArg (Script.ask _) (funext fun opened => ?_)
              cases opened <;> rfl

omit [EntropySource ε] in
theorem does_afterOpening {owner : Trial} {location : String} {left next : Provisioner ε}
    {opened : Except Failure Handle} {granted : Lease} {before after : σ}
    (leased : (afterOpening owner location left opened).run answer before =
      ((.ok granted, next), after)) :
    Dialogue.Does answer (afterOpening owner location left opened) before [] (.ok granted, next)
        after ∧
      opened = .ok granted.handle ∧ granted = ⟨location, granted.handle, owner, false⟩ := by
  cases opened with
  | error failure => cases leased
  | ok handle =>
      cases leased
      exact ⟨⟨rfl, rfl⟩, rfl, rfl⟩

omit [EntropySource ε] in
theorem does_openLease {owner : Trial} {location : String} {left next : Provisioner ε}
    {granted : Lease} {before after : σ}
    (leased : (openLease owner location left).run answer before = ((.ok granted, next), after)) :
    Dialogue.Does answer (openLease owner location left) before
        [⟨.openAt left.opener granted.location (optionsAt left.settings granted.location),
          .ok granted.handle⟩]
        (.ok granted, next) after ∧
      granted = ⟨location, granted.handle, owner, false⟩ := by
  obtain ⟨later, opened, same⟩ := does_afterOpening leased
  have opening := Dialogue.Does.ask later
  rw [opened] at opening
  have located : granted.location = location := by rw [same]
  rw [located]
  exact ⟨opening, same⟩

/-- A lease that is granted is a fresh one of its owner, and its engine was opened at its
location. -/
theorem does_lease {owner : Trial} {provisioner left : Provisioner ε} {granted : Lease}
    {before after : σ}
    (leased : (dialogue (lease owner) provisioner).run answer before =
      ((.ok granted, left), after)) :
    Dialogue.Does answer (dialogue (lease owner) provisioner) before
        [⟨.openAt provisioner.opener granted.location
          (optionsAt provisioner.settings granted.location), .ok granted.handle⟩]
        (.ok granted, left) after ∧
      granted.owner = owner ∧ granted.released = false := by
  rw [dialogue_lease] at leased ⊢
  cases valid : provisioner.settings.validate with
  | error failure =>
      rw [valid] at leased
      cases leased
  | ok fine =>
      rw [valid] at leased
      dsimp only at leased ⊢
      cases chosen : provisioner.choice (answer .clock before).1 with
      | mk result source =>
          simp only [Script.run, chosen] at leased
          cases result with
          | error failure => cases leased
          | ok location =>
              obtain ⟨opening, same⟩ := does_openLease leased
              refine ⟨.ask ?_, by rw [same], by rw [same]⟩
              simp only [chosen]
              exact opening

end Provisioner

namespace Lease

/-- What is noted about closing the engine. -/
def closeNotes (lease : Lease) : (closing : Outcome Unit) → List Exchange
  | .error (.failed failure) =>
      if failure.isClosed then [] else [⟨.note lease.owner.ledger (lease.closeText failure), ()⟩]
  | _ => []

/-- What follows the close of an engine when its lease is given back. -/
def clearing (lease : Lease) (closing : Outcome Unit) (cleared : Except DiskFault Unit) :
    List Exchange :=
  match closing with
  | .error (.panicked _) => []
  | _ => lease.closeNotes closing ++ [⟨.clear lease.location, cleared⟩]

/-- How giving a lease back ends. -/
def closed : (closing : Outcome Unit) → Outcome Unit
  | .error (.panicked message) => .error (.panicked message)
  | _ => .ok ()

def removalEvent (lease : Lease) : (cleared : Except DiskFault Unit) → Event
  | .ok () => .instanceRemoved lease.location
  | .error fault => .cleanupSkipped lease.location fault

theorem removeLocation_eq (lease : Lease) :
    lease.removeLocation = .ask (.clear lease.location) fun cleared =>
      Dialogue.log (lease.removalEvent cleared) := by
  refine congrArg (Script.ask _) (funext fun cleared => ?_)
  cases cleared with
  | ok done => rfl
  | error fault => rfl

/-- The dialogue after the close of an engine when its lease is given back. -/
def afterClose (lease : Lease) : (closing : Outcome Unit) → Dialogue (Outcome Unit)
  | .ok () => lease.removeLocation.bind fun _ => .done (.ok ())
  | .error (.failed failure) => (lease.settleClose failure).bind fun _ =>
      lease.removeLocation.bind fun _ => .done (.ok ())
  | .error (.panicked message) => .done (.error (.panicked message))

theorem dialogue_giveBack (lease : Lease) :
    lease.giveBack.dialogue = .ask (.call lease.handle .close) lease.afterClose := by
  refine congrArg (Script.ask _) (funext fun closing => ?_)
  match closing with
  | .ok () => rfl
  | .error (.panicked message) => rfl
  | .error (.failed failure) =>
      have settles : ((lease.settleClose failure).bind fun _ => Script.done (.ok ())).bind
          (ExceptT.bindCont fun _ => (liftM lease.removeLocation : Procedure Unit)) =
            lease.afterClose (.error (.failed failure)) :=
        Script.bind_assoc _ _ _
      exact settles

theorem clearing_of_forall_ne {closing : Outcome Unit}
    (returns : ∀ message, closing ≠ .error (.panicked message)) (lease : Lease)
    (cleared : Except DiskFault Unit) :
    lease.clearing closing cleared =
      lease.closeNotes closing ++ [⟨.clear lease.location, cleared⟩] := by
  match closing with
  | .ok () => rfl
  | .error (.failed failure) => rfl
  | .error (.panicked message) => exact absurd rfl (returns message)

theorem closed_of_forall_ne {closing : Outcome Unit}
    (returns : ∀ message, closing ≠ .error (.panicked message)) : closed closing = .ok () := by
  match closing with
  | .ok () => rfl
  | .error (.failed failure) => rfl
  | .error (.panicked message) => exact absurd rfl (returns message)

variable (answer : (question : Question) → σ → question.Reply × σ)

theorem does_settleClose (lease : Lease) (failure : Failure) (state : σ) :
    ∃ after, Dialogue.Does answer (lease.settleClose failure) state
      (lease.closeNotes (.error (.failed failure))) () after := by
  by_cases closed : failure.isClosed = true
  · rw [settleClose, closeNotes, if_pos closed, if_pos closed]
    exact ⟨_, Dialogue.does_log _ state⟩
  · rw [settleClose, closeNotes, if_neg closed, if_neg closed]
    exact Dialogue.does_record _ _ state

theorem does_removeLocation (lease : Lease) (state : σ) :
    ∃ cleared after, Dialogue.Does answer lease.removeLocation state
      [⟨.clear lease.location, cleared⟩] () after := by
  rw [removeLocation_eq]
  exact ⟨_, _, .ask (Dialogue.does_log _ _)⟩

theorem does_afterClose (lease : Lease) (closing : Outcome Unit) (state : σ) :
    ∃ cleared after, Dialogue.Does answer (lease.afterClose closing) state
      (lease.clearing closing cleared) (closed closing) after := by
  match closing with
  | .ok () =>
      obtain ⟨cleared, after, removes⟩ := lease.does_removeLocation answer state
      exact ⟨cleared, after, removes.bind (.done _ _)⟩
  | .error (.failed failure) =>
      obtain ⟨middle, settles⟩ := lease.does_settleClose answer failure state
      obtain ⟨cleared, after, removes⟩ := lease.does_removeLocation answer middle
      exact ⟨cleared, after, settles.bind (removes.bind (.done _ _))⟩
  | .error (.panicked message) => exact ⟨.ok (), state, .done _ _⟩

/-- A lease that is given back closes its engine once, and then removes its location once unless
the close panicked. -/
theorem does_release {lease : Lease} (fresh : lease.released = false) (state : σ) :
    ∃ closing cleared after, Dialogue.Does answer lease.release state
      (⟨.call lease.handle .close, closing⟩ :: lease.clearing closing cleared)
      (closed closing, { lease with released := true }) after := by
  obtain ⟨cleared, after, clears⟩ := lease.does_afterClose answer
    (answer (.call lease.handle .close) state).1 (answer (.call lease.handle .close) state).2
  refine ⟨(answer (.call lease.handle .close) state).1, cleared, after, ?_⟩
  rw [release, fresh, if_neg Bool.false_ne_true, dialogue_giveBack, ← List.append_nil (_ :: _)]
  exact (Dialogue.Does.ask clears).bind (.done _ _)

theorem does_release_again {lease : Lease} (released : lease.released = true) (state : σ) :
    Dialogue.Does answer lease.release state [] (.ok (), lease) state := by
  rw [release, if_pos released]
  exact .done _ _

variable {answer} {lease : Lease} {before after : σ} {made : List Exchange} {ending : Outcome Unit}

/-- Letting go of a lease does what giving it back does, and nothing more. -/
theorem does_teardown (releases : Dialogue.Does answer lease.release before made
      (ending, { lease with released := true }) after) :
    Dialogue.Does answer lease.teardown before made (ending, { lease with released := true })
      after := by
  have again : Dialogue.Does answer { lease with released := true }.release after []
      (.ok (), { lease with released := true }) after := does_release_again answer rfl after
  have same : ending.bind (fun _ => (.ok () : Outcome Unit)) = ending := by
    cases ending <;> rfl
  have ends : Dialogue.Does answer (.done (ending.bind fun _ => .ok (),
      { lease with released := true })) after [] (ending, { lease with released := true })
      after := by
    rw [same]
    exact .done _ _
  rw [← List.append_nil made]
  exact releases.bind (again.bind ends)

/-- Aborting a trial notes its failure before its lease is given back. -/
theorem does_abort {message : String} {left : Lease} (state : σ)
    (releases : Dialogue.Does answer lease.release
      (answer (.note lease.owner.ledger message)
        (answer (.log (.trialAborted lease.owner.kind lease.owner.name message)) state).2).2
      made (ending, left) after) :
    Dialogue.Does answer (lease.abort message : Dialogue (Outcome α × Lease)) state
      (⟨.note lease.owner.ledger message, ()⟩ :: made)
      (.error (.panicked (lease.owner.abortText message)), left) after := by
  have notes : Dialogue.Does answer (lease.owner.abort message : Procedure α).dialogue state
      [⟨.note lease.owner.ledger message, ()⟩]
      (.error (.panicked (lease.owner.abortText message))) _ := ⟨rfl, rfl⟩
  rw [← List.append_nil made]
  exact notes.bind (releases.bind (.done _ _))

end Lease

end StoreTrial
