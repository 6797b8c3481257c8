import StoreTrial.Trial.Question

/-! # Trials

The tests and benchmark cases that failures belong to. A failure is recorded and
the trial goes on, or it is recorded and the trial is aborted by a panic. A trial
that ends with recorded failures panics with all of them, unless it ends because
of a panic.
-/

namespace StoreTrial

/-- A test or a benchmark case with its failure log. -/
structure Trial where
  kind : TrialKind
  name : String
  ledger : Ledger
  deriving DecidableEq

namespace Trial

/-- Records a failure. -/
def record (trial : Trial) (message : String) : Dialogue Unit := do
  Dialogue.log (.failureRecorded trial.kind trial.name message)
  Script.query (Question.note trial.ledger message)

/-- The text of the panic that aborts a trial. -/
def abortText (trial : Trial) (message : String) : String := trial.name ++ ": " ++ message

/-- Records a failure and aborts the trial. -/
def abort {α : Type} (trial : Trial) (message : String) : Procedure α := do
  Dialogue.log (.trialAborted trial.kind trial.name message)
  (Script.query (Question.note trial.ledger message) : Dialogue Unit)
  throw (.panicked (trial.abortText message))

/-- Takes the failures recorded so far. -/
def takeFailures (trial : Trial) : Dialogue (List String) :=
  Script.query (Question.drain trial.ledger)

/-- The text of the panic that ends a trial with failures. -/
def closingText (trial : Trial) (failures : List String) : String :=
  trial.kind.label ++ " " ++ trial.name ++ " recorded " ++ toString failures.length ++
    " failure(s):\n  " ++ "\n  ".intercalate failures

/-- Ends a trial. While a panic is on its way nothing is added to it. -/
def finish (trial : Trial) (panicking : Bool) : Procedure Unit := do
  if panicking then return
  let failures ← trial.takeFailures
  if failures.isEmpty then return
  throw (.panicked (trial.closingText failures))

end Trial

end StoreTrial
