import StoreTrial.Failure.Kind
import StoreTrial.Lease.Provisioner

/-! # Leases

A lease holds a fresh engine and its storage location for a trial. Giving it back
closes the engine and removes the location, and happens once, however often it is
asked for. That the engine was closed already is no failure; any other failure to
close it is one of the trial.
-/

namespace StoreTrial

/-- An engine at its location, the trial it belongs to, and whether it was given
back. -/
structure Lease where
  location : String
  handle : Handle
  owner : Trial
  released : Bool
  deriving DecidableEq

namespace Lease

/-- The text for an engine that could not be closed. -/
def closeText (lease : Lease) (failure : Failure) : String :=
  "failed to close engine at " ++ lease.location ++ ": " ++ failure.message

/-- Says what closing the engine came to. -/
def settleClose (lease : Lease) (failure : Failure) : Dialogue Unit :=
  if failure.isClosed then Dialogue.log (.handleAlreadyClosed lease.location)
  else lease.owner.record (lease.closeText failure)

/-- Removes the location and says what came of it. -/
def removeLocation (lease : Lease) : Dialogue Unit := do
  match ← (Script.query (Question.clear lease.location) : Dialogue (Except DiskFault Unit)) with
  | .ok () => Dialogue.log (.instanceRemoved lease.location)
  | .error fault => Dialogue.log (.cleanupSkipped lease.location fault)

/-- Closes the engine and removes the location. A panic of the close leaves the
location where it is. -/
def giveBack (lease : Lease) : Procedure Unit := do
  tryCatch (Procedure.call lease.handle .close) fun
    | .failed failure => lease.settleClose failure
    | .panicked message => throw (.panicked message)
  lease.removeLocation

/-- Gives the lease back unless that was done. -/
def release (lease : Lease) : Dialogue (Outcome Unit × Lease) :=
  if lease.released then pure (.ok (), lease)
  else do
    let outcome ← lease.giveBack.dialogue
    return (outcome, { lease with released := true })

/-- Gives the lease back and lets go of it, which would give it back if that had not been
done. -/
def teardown (lease : Lease) : Dialogue (Outcome Unit × Lease) := do
  let (outcome, released) ← lease.release
  let (dropped, left) ← released.release
  return (outcome.bind fun _ => dropped, left)

/-- Aborts the trial that holds the lease, which is given back while the panic is on
its way. -/
def abort {α : Type} (lease : Lease) (message : String) : Dialogue (Outcome α × Lease) := do
  let outcome ← (lease.owner.abort message : Procedure α).dialogue
  let (_, released) ← lease.release
  return (outcome, released)

end Lease

namespace Provisioner

variable {ε : Type} [EntropySource ε]

/-- The text for an engine that could not be provided. -/
def refusalText (failure : Failure) : String :=
  "failed to provision engine instance: " ++ failure.message

/-- Leases a fresh engine to a trial; a failure aborts the trial. -/
def lease (owner : Trial) : Provisioning ε Lease := do
  let (location, handle) ← tryCatch openFresh fun
    | .failed failure => (owner.abort (refusalText failure) : Procedure (String × Handle))
    | .panicked message => throw (.panicked message)
  return { location := location, handle := handle, owner := owner, released := false }

end Provisioner

end StoreTrial
