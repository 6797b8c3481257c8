import StoreTrial.Proofs.EngineCalls
import StoreTrial.Proofs.InterleavedScripts
import StoreTrial.Trial.Check

/-! # What checks find

Every check asks its engine for at most one value or presence, and comes to a finding
(`StoreTrial.Requirement.Finds`): the requirement is met, it is violated, the call or the result it
depends on is a failure, or the engine has panicked. It then records one message in the second and
third case and none in the others, and aborts its trial in the third
(`StoreTrial.Requirement.reports_of_played`). Whatever others do in the meantime, a list of acts of a
trial is done in order, up to the first that aborts (`StoreTrial.Act.done_of_played`).
-/

namespace StoreTrial

/-- What a trial can require. -/
inductive Requirement : Type 1 where
  | keyPresent (handle : Handle) (key : Bytes)
  | keyAbsent (handle : Handle) (key : Bytes)
  | keyValue (handle : Handle) (key expected : Bytes)
  | equal {α : Type} [BEq α] [Outlined α] (expected actual : α) (what : String)
  | different {α : Type} [BEq α] [Outlined α] (unexpected actual : α) (what : String)
  | bytesEqual (expected actual : Bytes) (what : String)
  | holds (condition : Bool) (what : String)
  | fails (condition : Bool) (what : String)
  | success {α : Type} (result : Except Failure α) (what : String)
  | failure {α : Type} [Outlined α] (result : Except Failure α) (what : String)
  | notFound {α : Type} [Outlined α] (result : Except Failure α) (what : String)

/-- The check of a requirement. -/
def Requirement.check (trial : Trial) : Requirement → Procedure Unit
  | keyPresent handle key => Check.keyPresent trial handle key
  | keyAbsent handle key => Check.keyAbsent trial handle key
  | keyValue handle key expected => Check.keyValue trial handle key expected
  | equal expected actual what => Check.equal trial expected actual what
  | different unexpected actual what => Check.different trial unexpected actual what
  | bytesEqual expected actual what => Check.bytesEqual trial expected actual what
  | holds condition what => Check.holds trial condition what
  | fails condition what => Check.fails trial condition what
  | success result what => do
      let _ ← Check.success trial result what
  | failure result what => Check.failure trial result what
  | notFound result what => Check.notFound trial result what

/-- What a check comes to. -/
inductive Finding where
  | met
  | violated
  /-- The call or the result that the check depends on is a failure. -/
  | refused
  /-- The engine has panicked. -/
  | panicked (message : String)
  deriving DecidableEq

namespace Finding

/-- The finding on a requirement that holds or does not. -/
def expected (holds : Bool) : Finding := if holds then met else violated

/-- The finding on a requirement of what an engine replies. -/
def ofReply {α : Type} (reply : Outcome α) (holds : α → Bool) : Finding :=
  match reply with
  | .ok value => expected (holds value)
  | .error (.failed _) => refused
  | .error (.panicked message) => panicked message

/-- The finding on a requirement that a result is a failure. -/
def ofFailure {α : Type} (result : Except Failure α) (holds : Failure → Bool) : Finding :=
  match result with
  | .ok _ => violated
  | .error failure => expected (holds failure)

end Finding

variable {σ α : Type} {answer : (question : Question) → σ → question.Reply × σ}

/-- The call that a check makes, if any, with the state it is made in, and what the check finds. -/
inductive Requirement.Finds (answer : (question : Question) → σ → question.Reply × σ) :
    Requirement → List (σ × Question) → Finding → Prop where
  | keyPresent {handle : Handle} {key : Bytes} (state : σ) :
      Finds answer (.keyPresent handle key) [(state, .call handle (.contains key))]
        (.ofReply (answer (.call handle (.contains key)) state).1 fun present => present)
  | keyAbsent {handle : Handle} {key : Bytes} (state : σ) :
      Finds answer (.keyAbsent handle key) [(state, .call handle (.contains key))]
        (.ofReply (answer (.call handle (.contains key)) state).1 fun present => !present)
  | keyValue {handle : Handle} {key expected : Bytes} (state : σ) :
      Finds answer (.keyValue handle key expected) [(state, .call handle (.get key))]
        (.ofReply (answer (.call handle (.get key)) state).1 fun actual => actual == expected)
  | equal {α : Type} [BEq α] [Outlined α] {expected actual : α} {what : String} :
      Finds answer (.equal expected actual what) [] (.expected (expected == actual))
  | different {α : Type} [BEq α] [Outlined α] {unexpected actual : α} {what : String} :
      Finds answer (.different unexpected actual what) [] (.expected (unexpected != actual))
  | bytesEqual {expected actual : Bytes} {what : String} :
      Finds answer (.bytesEqual expected actual what) [] (.expected (expected = actual))
  | holds {condition : Bool} {what : String} :
      Finds answer (.holds condition what) [] (.expected condition)
  | fails {condition : Bool} {what : String} :
      Finds answer (.fails condition what) [] (.expected !condition)
  | success {α : Type} {result : Except Failure α} {what : String} :
      Finds answer (.success result what) []
        (.ofReply (Outcome.ofResult result) fun _ => true)
  | failure {α : Type} [Outlined α] {result : Except Failure α} {what : String} :
      Finds answer (.failure result what) [] (.ofFailure result fun _ => true)
  | notFound {α : Type} [Outlined α] {result : Except Failure α} {what : String} :
      Finds answer (.notFound result what) [] (.ofFailure result Failure.isNotFound)

namespace Trial

/-- What is asked to record a failure. -/
def recording (trial : Trial) (message : String) : List Question :=
  [.log (.failureRecorded trial.kind trial.name message), .note trial.ledger message]

/-- What is asked to record a failure that aborts the trial. -/
def aborting (trial : Trial) (message : String) : List Question :=
  [.log (.trialAborted trial.kind trial.name message), .note trial.ledger message]

/-- What is asked about a finding, and how the check ends. -/
inductive Reports (trial : Trial) : Finding → List Question → Outcome Unit → Prop where
  | met : Reports trial .met [] (.ok ())
  | violated (message : String) : Reports trial .violated (trial.recording message) (.ok ())
  | refused (message : String) :
      Reports trial .refused (trial.aborting message)
        (.error (.panicked (trial.abortText message)))
  | panicked (message : String) : Reports trial (.panicked message) [] (.error (.panicked message))

end Trial

open Script (Played)

variable {trial : Trial} {questions : List (σ × Question)} {ending : Outcome Unit}

theorem Trial.played_record {message : String}
    (played : Played answer (Procedure.dialogue (trial.record message)) questions ending) :
    questions.map Prod.snd = trial.recording message ∧ ending = .ok () := by
  change Played answer (.ask (.log (.failureRecorded trial.kind trial.name message)) fun _ =>
    .ask (.note trial.ledger message) fun _ => .done (.ok ())) questions ending at played
  cases played with
  | ask logged =>
      cases logged with
      | ask noted =>
          cases noted
          exact ⟨rfl, rfl⟩

theorem Trial.played_abort {message : String} {ending : Outcome α}
    (played : Played answer (Procedure.dialogue (trial.abort message)) questions ending) :
    questions.map Prod.snd = trial.aborting message ∧
      ending = .error (.panicked (trial.abortText message)) := by
  change Played answer (.ask (.log (.trialAborted trial.kind trial.name message)) fun _ =>
    .ask (.note trial.ledger message) fun _ =>
      .done (.error (.panicked (trial.abortText message)))) questions ending at played
  cases played with
  | ask logged =>
      cases logged with
      | ask noted =>
          cases noted
          exact ⟨rfl, rfl⟩

theorem Check.played_expect {condition : Bool} {message : String}
    (played : Played answer (Procedure.dialogue (Check.expect trial condition message)) questions
      ending) :
    trial.Reports (.expected condition) (questions.map Prod.snd) ending := by
  cases condition with
  | true =>
      change Played answer (.done (.ok ())) questions ending at played
      cases played
      exact .met
  | false =>
      obtain ⟨asked, rfl⟩ := Trial.played_record played
      rw [asked]
      exact .violated message

/-- What follows on a reply that a check depends on. -/
def Check.settle (trial : Trial) (name : String) (key : Bytes) (rest : α → Procedure Unit) :
    (reply : Outcome α) → Dialogue (Outcome Unit)
  | .ok value => (rest value).dialogue
  | .error (.failed failure) => Procedure.dialogue (trial.abort (Check.callText name key failure))
  | .error (.panicked message) => .done (.error (.panicked message))

theorem Check.dialogue_require_bind {handle : Handle} {name : String} {key : Bytes}
    {request : Request} (rest : request.Answer → Procedure Unit) :
    Procedure.dialogue (Check.require trial handle name key request >>= rest) =
      .ask (.call handle request) (settle trial name key rest) := by
  refine congrArg (Script.ask _) (funext fun reply => ?_)
  match reply with
  | .ok value => rfl
  | .error (.failed failure) => rfl
  | .error (.panicked message) => rfl

/-- A check that depends on a call reports what is found about the reply. -/
theorem Check.played_require {handle : Handle} {name : String} {key : Bytes} {request : Request}
    {holds : request.Answer → Bool} {message : request.Answer → String}
    (played : Played answer (Procedure.dialogue (Check.require trial handle name key request >>=
      fun value => Check.expect trial (holds value) (message value))) questions ending) :
    ∃ state reports, questions = (state, .call handle request) :: reports ∧
      trial.Reports (.ofReply (answer (.call handle request) state).1 holds)
        (reports.map Prod.snd) ending := by
  rw [Check.dialogue_require_bind] at played
  cases played with
  | @ask _ _ state reports _ settled =>
      refine ⟨state, reports, rfl, ?_⟩
      match replied : (answer (.call handle request) state).1 with
      | .ok value =>
          rw [replied] at settled
          exact Check.played_expect settled
      | .error (.failed failure) =>
          rw [replied] at settled
          obtain ⟨asked, rfl⟩ := Trial.played_abort settled
          rw [asked]
          exact .refused _
      | .error (.panicked message) =>
          rw [replied] at settled
          cases settled
          exact .panicked message

/-- **A check reports what it finds.** -/
theorem Requirement.reports_of_played {requirement : Requirement}
    (played : Played answer (requirement.check trial).dialogue questions ending) :
    ∃ calls reports finding, questions = calls ++ reports ∧
      requirement.Finds answer calls finding ∧
      trial.Reports finding (reports.map Prod.snd) ending := by
  cases requirement with
  | keyPresent handle key =>
      obtain ⟨state, reports, rfl, reported⟩ := Check.played_require played
      exact ⟨[_], reports, _, rfl, .keyPresent state, reported⟩
  | keyAbsent handle key =>
      obtain ⟨state, reports, rfl, reported⟩ := Check.played_require played
      exact ⟨[_], reports, _, rfl, .keyAbsent state, reported⟩
  | keyValue handle key expected =>
      obtain ⟨state, reports, rfl, reported⟩ := Check.played_require played
      exact ⟨[_], reports, _, rfl, .keyValue state, reported⟩
  | equal expected actual what =>
      exact ⟨[], questions, _, rfl, .equal, Check.played_expect played⟩
  | different unexpected actual what =>
      exact ⟨[], questions, _, rfl, .different, Check.played_expect played⟩
  | bytesEqual expected actual what =>
      exact ⟨[], questions, _, rfl, .bytesEqual, Check.played_expect played⟩
  | holds condition what => exact ⟨[], questions, _, rfl, .holds, Check.played_expect played⟩
  | fails condition what => exact ⟨[], questions, _, rfl, .fails, Check.played_expect played⟩
  | success result what =>
      refine ⟨[], questions, _, rfl, .success, ?_⟩
      cases result with
      | ok value =>
          cases played
          exact .met
      | error failure =>
          obtain ⟨asked, rfl⟩ := Trial.played_abort played
          rw [asked]
          exact .refused _
  | failure result what =>
      refine ⟨[], questions, _, rfl, .failure, ?_⟩
      cases result with
      | ok value =>
          obtain ⟨asked, rfl⟩ := Trial.played_record played
          rw [asked]
          exact .violated _
      | error failure =>
          cases played
          exact .met
  | notFound result what =>
      refine ⟨[], questions, _, rfl, .notFound, ?_⟩
      cases result with
      | ok value =>
          obtain ⟨asked, rfl⟩ := Trial.played_record played
          rw [asked]
          exact .violated _
      | error failure => exact Check.played_expect played

/-- A check makes at most one call, and that one reads. -/
theorem Requirement.Finds.reads {requirement : Requirement} {calls : List (σ × Question)}
    {finding : Finding} (finds : requirement.Finds answer calls finding) :
    calls = [] ∨ ∃ state handle request, calls = [(state, .call handle request)] ∧
      request.isReading = true := by
  cases finds with
  | keyPresent state | keyAbsent state | keyValue state => exact .inr ⟨state, _, _, rfl, rfl⟩
  | equal | different | bytesEqual | holds | fails | success | failure | notFound => exact .inl rfl

/-! ## Acts -/

/-- What is done with a trial before it ends. -/
inductive Act : Type 1 where
  | require (requirement : Requirement)
  | report (message : String)
  | abort (message : String)
  | take

namespace Act

def perform (trial : Trial) : Act → Procedure Unit
  | require requirement => requirement.check trial
  | report message => trial.record message
  | abort message => trial.abort message
  | take => do
      let _ ← trial.takeFailures

/-- Acts one after another, up to the first that aborts. -/
def task (trial : Trial) : List Act → Dialogue (Outcome Unit)
  | [] => .done (.ok ())
  | act :: acts => (act.perform trial).dialogue.bind fun
      | .ok () => task trial acts
      | .error stop => .done (.error stop)

/-- What an act asks, and how it ends. -/
inductive Asks (answer : (question : Question) → σ → question.Reply × σ) (trial : Trial) :
    Act → List (σ × Question) → Outcome Unit → Prop where
  | require {requirement : Requirement} {calls reports : List (σ × Question)} {finding : Finding}
      {ending : Outcome Unit} (found : requirement.Finds answer calls finding)
      (reported : trial.Reports finding (reports.map Prod.snd) ending) :
      Asks answer trial (.require requirement) (calls ++ reports) ending
  | report {message : String} {questions : List (σ × Question)}
      (asked : questions.map Prod.snd = trial.recording message) :
      Asks answer trial (.report message) questions (.ok ())
  | abort {message : String} {questions : List (σ × Question)}
      (asked : questions.map Prod.snd = trial.aborting message) :
      Asks answer trial (.abort message) questions (.error (.panicked (trial.abortText message)))
  | take (state : σ) : Asks answer trial .take [(state, .drain trial.ledger)] (.ok ())

/-- What acts ask one after another, up to the first that aborts. -/
inductive Done (answer : (question : Question) → σ → question.Reply × σ) (trial : Trial) :
    List Act → List (σ × Question) → Outcome Unit → Prop where
  | nil : Done answer trial [] [] (.ok ())
  | next {act : Act} {acts : List Act} {first rest : List (σ × Question)} {ending : Outcome Unit}
      (asks : act.Asks answer trial first (.ok ())) (later : Done answer trial acts rest ending) :
      Done answer trial (act :: acts) (first ++ rest) ending
  | last {act : Act} {acts : List Act} {questions : List (σ × Question)} {stop : Stop}
      (asks : act.Asks answer trial questions (.error stop)) :
      Done answer trial (act :: acts) questions (.error stop)

theorem asks_of_played {act : Act}
    (played : Played answer (act.perform trial).dialogue questions ending) :
    act.Asks answer trial questions ending := by
  cases act with
  | require requirement =>
      obtain ⟨calls, reports, finding, rfl, found, reported⟩ :=
        Requirement.reports_of_played played
      exact .require found reported
  | report message =>
      obtain ⟨asked, rfl⟩ := Trial.played_record played
      exact .report asked
  | abort message =>
      obtain ⟨asked, rfl⟩ := Trial.played_abort played
      exact .abort asked
  | take =>
      change Played answer (.ask (.drain trial.ledger) fun _ => .done (.ok ())) questions ending
        at played
      cases played with
      | ask drained =>
          cases drained
          exact .take _

/-- **Acts are done in order, up to the first that aborts.** -/
theorem done_of_played {acts : List Act}
    (played : Played answer (task trial acts) questions ending) :
    Done answer trial acts questions ending := by
  induction acts generalizing questions with
  | nil =>
      cases played
      exact .nil
  | cons act acts ih =>
      obtain ⟨first, rest, middle, rfl, start, later⟩ := Played.of_bind played
      cases middle with
      | ok done => exact .next (asks_of_played start) (ih later)
      | error stop =>
          cases later
          rw [List.append_nil]
          exact .last (asks_of_played start)

end Act

end StoreTrial
