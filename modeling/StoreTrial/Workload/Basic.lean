import StoreTrial.Plan

/-! # Workloads

The shapes of benchmark cases and how many payload bytes one iteration of each
moves.
-/

namespace StoreTrial

/-- A benchmark case that one caller runs. -/
inductive Workload where
  /-- One operation per iteration. -/
  | single (operation : Operation) (valueSize : Nat)
  /-- A batch of puts per iteration. -/
  | batch (size valueSize : Nat)
  /-- Reads that go round a population of keys. -/
  | randomGet (population valueSize : Nat)
  /-- The operations of a mix over the items of a plan. -/
  | mixed (plan : Plan)
  /-- Puts of the items of a plan. -/
  | putOnly (plan : Plan)
  deriving DecidableEq

namespace Workload

/-- The name of a case. -/
def name : Workload → String
  | single operation _ => operation.caseName
  | batch size _ => "batch_" ++ toString size
  | randomGet population _ => "random_get_" ++ toString population
  | mixed plan => plan.name
  | putOnly plan => "memory_" ++ plan.name

/-- The payload bytes that one iteration moves. -/
def bytesPerIteration : Workload → Nat
  | single .put valueSize | single .insert valueSize | single .get valueSize => valueSize
  | single .contains _ | single .delete _ => 0
  | batch size valueSize => wrapped (size * valueSize)
  | randomGet _ valueSize => valueSize
  | mixed plan => plan.valueSize
  | putOnly plan => plan.pairBytes

end Workload

end StoreTrial
