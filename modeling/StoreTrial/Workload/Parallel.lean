import StoreTrial.Script.Interleaving
import StoreTrial.Workload.Measured
import StoreTrial.Workload.Share

/-! # Parallel workers

Units of work on one engine that several workers share. A unit writes a key of its
own and reads it back. A worker ends at its first unit that goes wrong, the others
go on, and the failure of the first worker that has one is the failure of the
case.
-/

namespace StoreTrial

/-- The case of puts and gets by parallel workers. -/
structure ParallelCase where
  valueSize : Nat
  deriving DecidableEq

namespace ParallelCase

/-- The name of the case. -/
def name : String := "concurrent_put_get"

/-- Writes a value under a key and reads it back. -/
def workUnit (value key : Bytes) : Attempt Unit := do
  Attempt.call (.put key value)
  let found ← Attempt.call (.get key)
  if found = value then pure ()
  else Attempt.fail (.invalidOperation (.differentValue (Bytes.repaired key)))

/-- The units of a worker, one after another. -/
def worker (value : Bytes) (index units : Nat) : Attempt Unit :=
  Attempt.forEachFrom 0 units fun number => workUnit value (Key.unit index number)

/-- The scripts of all workers. -/
def crew (value : Bytes) (workers total : Nat) : List (Script Probe.Reply (Outcome Unit)) :=
  (List.range workers).map fun index => (worker value index (share index workers total)).script

/-- The failure that a worker ended with. -/
def failureOf : Outcome Unit → Option Failure
  | .ok () => none
  | .error (.failed failure) => some failure
  | .error (.panicked _) => some (.invalidOperation .workerPanicked)

variable {ε : Type} [EntropySource ε]

/-- Spreads units of work over workers, at least one, whose calls follow each
other as the schedule says, and measures them. -/
def measure (case : ParallelCase) (schedule : List Nat) (workers total : Nat) :
    Probing ε Measurement := do
  let workers := max workers 1
  let value ← Probing.draw (Generator.value case.valueSize)
  let start ← Attempt.instant
  let outcomes ← (ExceptT.lift (Script.interleave schedule (crew value workers total)) :
    Attempt (List (Outcome Unit)))
  let stop ← Attempt.instant
  match outcomes.findSome? failureOf with
  | some failure => do
      Attempt.log (.workersAborted workers failure)
      Attempt.fail failure
  | none => return ⟨total, stop - start, wrapped (total * case.valueSize)⟩

end ParallelCase

end StoreTrial
