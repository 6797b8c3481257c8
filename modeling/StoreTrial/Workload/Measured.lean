import StoreTrial.Workload.Measurement
import StoreTrial.Workload.Preparation

/-! # Running a workload

A case is prepared, the clock is read, the iterations are made one after another,
and the clock is read again. The first iteration that stops ends the run.
-/

namespace StoreTrial.Workload

/-- The value that overwrites take in an iteration: the two prepared values change
places after each pass through the cycle. -/
def freshValue (plan : Plan) (prepared : Prepared) (iteration : Nat) : Attempt Bytes :=
  Attempt.element prepared.values (iteration / plan.mix.cycle.length % 2)

/-- One iteration of a single operation. -/
def stepSingle (operation : Operation) (prepared : Prepared) (iteration : Nat) : Attempt Unit := do
  match operation with
  | .put | .insert =>
      Attempt.call (.put (← Attempt.element prepared.keys iteration)
        (← Attempt.element prepared.values 0))
  | .get => discard (Attempt.call (.get (← Attempt.element prepared.keys 0)))
  | .contains => discard (Attempt.call (.contains (← Attempt.element prepared.keys 0)))
  | .delete => Attempt.call (.delete (← Attempt.element prepared.keys iteration))

/-- One batch of puts. -/
def stepBatch (prepared : Prepared) : Attempt Unit :=
  (prepared.keys.toList.zip prepared.values.toList).forM fun (key, value) =>
    Attempt.call (.put key value)

/-- One read of the population. -/
def stepRandomGet (prepared : Prepared) (iteration : Nat) : Attempt Unit := do
  discard (Attempt.call (.get (← Attempt.cyclicElement prepared.keys iteration)))

/-- One operation of a mix. -/
def stepMixed (plan : Plan) (prepared : Prepared) (iteration : Nat) : Attempt Unit := do
  let key ← Attempt.cyclicElement prepared.keys iteration
  let fresh ← freshValue plan prepared iteration
  match plan.mix.operation iteration with
  | .get => discard (Attempt.call (.get key))
  | .put => Attempt.call (.put key fresh)
  | .contains => discard (Attempt.call (.contains key))
  | .delete => Attempt.call (.delete key)
  | .insert => Attempt.call (.put (Key.insertion iteration) fresh)

/-- One put of an item of a plan. -/
def stepPutOnly (prepared : Prepared) (iteration : Nat) : Attempt Unit := do
  let key ← Attempt.cyclicElement prepared.keys iteration
  let value ← Attempt.element prepared.values (iteration % prepared.keys.size)
  Attempt.call (.put key value)

/-- One iteration of a case. -/
def step (workload : Workload) (prepared : Prepared) (iteration : Nat) : Attempt Unit :=
  match workload with
  | single operation _ => stepSingle operation prepared iteration
  | batch _ _ => stepBatch prepared
  | randomGet _ _ => stepRandomGet prepared iteration
  | mixed plan => stepMixed plan prepared iteration
  | putOnly _ => stepPutOnly prepared iteration

/-- One iteration that reports its failure. -/
def reportedStep (workload : Workload) (prepared : Prepared) (iteration : Nat) : Attempt Unit :=
  tryCatch (workload.step prepared iteration) fun stop => do
    match stop with
    | .failed failure => Attempt.log (.loopAborted workload.name iteration failure)
    | .panicked _ => pure ()
    throw stop

/-- The iterations of a case. -/
def iterate (workload : Workload) (prepared : Prepared) (iterations : Nat) : Attempt Unit :=
  Attempt.forEachFrom 0 iterations (workload.reportedStep prepared)

variable {ε : Type} [EntropySource ε]

/-- Prepares a case and measures a number of iterations of it. -/
def measure (workload : Workload) (iterations : Nat) : Probing ε Measurement := do
  let prepared ← workload.prepare iterations
  let start ← Attempt.instant
  workload.iterate prepared iterations
  let stop ← Attempt.instant
  return ⟨iterations, stop - start, wrapped (iterations * workload.bytesPerIteration)⟩

end StoreTrial.Workload
