import StoreTrial.Workload.Basic
import StoreTrial.Workload.Probe

/-! # Preparing a workload

What a case sets up before the clock starts: its keys and values, and the keys
that the engine has to hold beforehand.
-/

namespace StoreTrial

/-- The keys and values that the iterations of a case use. -/
structure Prepared where
  keys : Array Bytes
  values : Array Bytes
  deriving DecidableEq

/-- The bytes with the first one moved to the end. -/
def Prepared.rotate : Bytes → Attempt Bytes
  | [] => Attempt.panic "assertion failed: mid <= self.len()"
  | first :: rest => pure (rest ++ [first])

namespace Workload

/-- Puts one value under every key. -/
def populate (keys : List Bytes) (value : Bytes) : Attempt Unit :=
  keys.forM fun key => Attempt.call (.put key value)

variable {ε : Type} [EntropySource ε]

/-- Prepares a case of one operation: new keys for writes, one present key for
reads, and as many present keys as there are iterations for deletes. -/
def prepareSingle (operation : Operation) (valueSize iterations : Nat) : Probing ε Prepared := do
  let value ← Probing.draw (Generator.value valueSize)
  let keys := Key.sequentialKeys "single-"
    (match operation with
      | .put | .insert | .delete => iterations
      | .get | .contains => 1)
  match operation with
  | .put | .insert => pure ()
  | .get | .contains | .delete => populate keys value
  return ⟨keys.toArray, #[value]⟩

/-- Prepares a batch: a key and a value for every put of it. -/
def prepareBatch (size valueSize : Nat) : Probing ε Prepared := do
  let values ← Probing.draw (Draw.replicate (Generator.value valueSize) size)
  return ⟨(Key.sequentialKeys "batch-" size).toArray, values.toArray⟩

/-- Prepares a population of keys with one value. -/
def prepareRandomGet (population valueSize : Nat) : Probing ε Prepared := do
  if population = 0 then Attempt.fail (.invalidOperation .emptyPopulation)
  let keys := Key.sequentialKeys "random-" population
  let value ← Probing.draw (Generator.value valueSize)
  populate keys value
  return ⟨keys.toArray, #[value]⟩

/-- Prepares the items of a mix, and two values that overwrites take in turn. When
both were drawn alike the second is rotated. -/
def prepareMixed (plan : Plan) : Probing ε Prepared := do
  if plan.items = 0 then Attempt.fail (.invalidOperation (.nothingToMix plan.name))
  let keys := Key.sequentialKeys "mixed-" plan.items
  let value ← Probing.draw (Generator.value plan.valueSize)
  populate keys value
  let first ← Probing.draw (Generator.value plan.valueSize)
  let second ← Probing.draw (Generator.value plan.valueSize)
  let second ← if second = first then Prepared.rotate second else pure second
  return ⟨keys.toArray, #[first, second]⟩

/-- Prepares different keys and a value for each item of a plan. -/
def preparePutOnly (plan : Plan) : Probing ε Prepared := do
  if plan.items = 0 then Attempt.fail (.invalidOperation (.nothingToWrite plan.name))
  let keys ← Probing.draw (Generator.uniqueKeys plan.items plan.keySize)
  let values ← Probing.draw (Draw.replicate (Generator.value plan.valueSize) plan.items)
  return ⟨keys.toArray, values.toArray⟩

/-- Prepares a case for a number of iterations. -/
def prepare (workload : Workload) (iterations : Nat) : Probing ε Prepared :=
  match workload with
  | single operation valueSize => prepareSingle operation valueSize iterations
  | batch size valueSize => prepareBatch size valueSize
  | randomGet population valueSize => prepareRandomGet population valueSize
  | mixed plan => prepareMixed plan
  | putOnly plan => preparePutOnly plan

end Workload

end StoreTrial
