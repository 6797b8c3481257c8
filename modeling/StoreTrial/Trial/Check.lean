import StoreTrial.Bytes.Repaired
import StoreTrial.Failure.Kind
import StoreTrial.Plan
import StoreTrial.Text.Outlined
import StoreTrial.Trial.Basic

/-! # Checks

What a trial can require of an engine or of its results. A check that is not met
records one failure and the trial goes on; a call that a check depends on and that
fails aborts the trial.
-/

namespace StoreTrial

instance : Outlined FailureKind := ⟨FailureKind.label⟩

instance : Outlined Operation := ⟨Operation.label⟩

namespace Check

/-- A byte string as quoted text. -/
def quoted (bytes : Bytes) : String := Text.quote (Bytes.repaired bytes)

/-- Records a failure when a condition does not hold. -/
def expect (trial : Trial) (holds : Bool) (message : String) : Procedure Unit := do
  if holds then return
  trial.record message

/-- The text for a call on a key that failed. -/
def callText (name : String) (key : Bytes) (failure : Failure) : String :=
  name ++ "(" ++ quoted key ++ ") failed: " ++ failure.message

/-- The answer to a call on a key; a failure aborts the trial. -/
def require (trial : Trial) (handle : Handle) (name : String) (key : Bytes) (request : Request) :
    Procedure request.Answer :=
  tryCatch (Procedure.call handle request) fun
    | .failed failure => trial.abort (callText name key failure)
    | .panicked message => throw (.panicked message)

/-- The key has to be present. -/
def keyPresent (trial : Trial) (handle : Handle) (key : Bytes) : Procedure Unit := do
  let present ← require trial handle "exists" key (.contains key)
  expect trial present ("expected key " ++ quoted key ++ " to exist")

/-- The key has to be absent. -/
def keyAbsent (trial : Trial) (handle : Handle) (key : Bytes) : Procedure Unit := do
  let present ← require trial handle "exists" key (.contains key)
  expect trial (not present) ("expected key " ++ quoted key ++ " not to exist")

/-- The key has to hold a value. -/
def keyValue (trial : Trial) (handle : Handle) (key expected : Bytes) : Procedure Unit := do
  let actual ← require trial handle "get" key (.get key)
  expect trial (actual == expected)
    ("key " ++ quoted key ++ ": expected value " ++ quoted expected ++ ", got " ++ quoted actual)

variable {α : Type}

/-- Two values have to be equal, as far as their type compares them. -/
def equal [BEq α] [Outlined α] (trial : Trial) (expected actual : α) (what : String) :
    Procedure Unit :=
  expect trial (expected == actual)
    (what ++ ": expected " ++ outline expected ++ ", got " ++ outline actual)

/-- Two values have to be different. -/
def different [BEq α] [Outlined α] (trial : Trial) (unexpected actual : α) (what : String) :
    Procedure Unit :=
  expect trial (unexpected != actual) (what ++ ": did not expect " ++ outline actual)

/-- Two byte strings have to be equal. -/
def bytesEqual (trial : Trial) (expected actual : Bytes) (what : String) : Procedure Unit :=
  let sized (bytes : Bytes) : String := toString bytes.length ++ " bytes " ++ quoted bytes
  expect trial (expected = actual)
    (what ++ ": expected " ++ sized expected ++ ", got " ++ sized actual)

/-- A condition has to hold. -/
def holds (trial : Trial) (condition : Bool) (what : String) : Procedure Unit :=
  expect trial condition (what ++ ": expected true")

/-- A condition must not hold. -/
def fails (trial : Trial) (condition : Bool) (what : String) : Procedure Unit :=
  expect trial (not condition) (what ++ ": expected false")

/-- A result has to be there; a failure aborts the trial. -/
def success (trial : Trial) (result : Except Failure α) (what : String) : Procedure α :=
  match result with
  | .ok value => pure value
  | .error failure => trial.abort (what ++ ": unexpected error: " ++ failure.message)

/-- A result has to be a failure. -/
def failure [Outlined α] (trial : Trial) (result : Except Failure α) (what : String) :
    Procedure Unit :=
  match result with
  | .ok value =>
      trial.record (what ++ ": expected an error, got " ++ Text.outlineTagged "Ok" (outline value))
  | .error _ => pure ()

/-- A result has to be the failure that a key is absent. -/
def notFound [Outlined α] (trial : Trial) (result : Except Failure α) (what : String) :
    Procedure Unit :=
  match result with
  | .ok value =>
      trial.record (what ++ ": expected a not-found error, got " ++
        Text.outlineTagged "Ok" (outline value))
  | .error failure =>
      expect trial failure.isNotFound
        (what ++ ": expected a not-found error, got: " ++ failure.message)

end Check

end StoreTrial
