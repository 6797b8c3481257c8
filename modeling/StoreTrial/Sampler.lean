import StoreTrial.Lease.Basic
import StoreTrial.Workload.Parallel

/-! # Samples

A sample runs a workload on a fresh engine: the engine is leased, the workload is
measured on it, and the lease is given back, whether the run ended well, failed or
panicked. A run that failed aborts the case.
-/

namespace StoreTrial

/-- Takes samples: where engines come from, where payloads come from, and the number
of parallel workers. -/
structure Sampler (ε γ : Type) where
  provisioner : Provisioner ε
  generator : Generator γ
  workers : Nat
  deriving DecidableEq

namespace Sampler

variable {ε γ : Type}

/-- The sampler with the seed and the workers of its settings. -/
def start (provisioner : Provisioner ε) (source : γ) : Sampler ε γ where
  provisioner := provisioner
  generator := { source := source, seed := provisioner.settings.seed }
  workers := max provisioner.settings.workers 1

/-- The sampler with a number of workers, which is at least one. -/
def withWorkers (sampler : Sampler ε γ) (workers : Nat) : Sampler ε γ :=
  { sampler with workers := max workers 1 }

/-- The text for a run that failed. -/
def abortText (name : String) (failure : Failure) : String :=
  name ++ " aborted: " ++ failure.message

/-- Ends a sample by the outcome of its run. The lease is given back after the
failure of the run was recorded. -/
def conclude (lease : Lease) (name : String) (report : Measurement → Event)
    (outcome : Outcome Measurement) : Procedure Measurement := do
  match outcome with
  | .ok measurement =>
      let (released, _) ← (lease.teardown : Dialogue (Outcome Unit × Lease))
      Procedure.ofDialogue (pure released)
      Dialogue.log (report measurement)
      return measurement
  | .error (.failed failure) =>
      let (aborted, _) ← (lease.abort (abortText name failure) :
        Dialogue (Outcome Measurement × Lease))
      Procedure.ofDialogue (pure aborted)
  | .error (.panicked message) =>
      discard (lease.release : Dialogue (Outcome Unit × Lease))
      throw (.panicked message)

variable [EntropySource ε]

/-- Takes one sample of a run. -/
def take (sampler : Sampler ε γ) (trial : Trial) (name : String) (run : Probing γ Measurement)
    (report : Measurement → Event) : Dialogue (Outcome Measurement × Sampler ε γ) := do
  let (leased, provisioner) ← Provisioner.dialogue (Provisioner.lease trial) sampler.provisioner
  match leased with
  | .error stop => return (.error stop, { sampler with provisioner := provisioner })
  | .ok lease => do
      let (outcome, generator) ← run.dialogue lease.handle sampler.generator
      let concluded ← (conclude lease name report outcome).dialogue
      return (concluded, { sampler with provisioner := provisioner, generator := generator })

variable [EntropySource γ]

/-- Takes one sample of a workload. -/
def measure (sampler : Sampler ε γ) (trial : Trial) (workload : Workload) (iterations : Nat) :
    Dialogue (Outcome Measurement × Sampler ε γ) :=
  sampler.take trial workload.name (workload.measure iterations) fun measurement =>
    .sampleComplete trial.name workload.name iterations measurement.nanosPerStep

/-- Takes one sample of parallel workers, whose calls follow each other as the
schedule says. -/
def measureParallel (sampler : Sampler ε γ) (trial : Trial) (case : ParallelCase)
    (schedule : List Nat) (iterations : Nat) : Dialogue (Outcome Measurement × Sampler ε γ) :=
  sampler.take trial ParallelCase.name
    (case.measure schedule sampler.workers iterations) fun measurement =>
      .parallelSampleComplete trial.name sampler.workers iterations measurement.stepsPerSecond

end Sampler

end StoreTrial
