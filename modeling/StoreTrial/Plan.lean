import StoreTrial.Binary64
import StoreTrial.Text.Outline

/-! # Workload plans

The sizes and the operations of a workload. A mix repeats a cycle of operations,
so the operation of an iteration is its remainder's place in the cycle and the
ratios hold by construction. Bytes are counted in words of 64 bits, which start
again from zero when they are full.
-/

namespace StoreTrial

/-- What a word of 64 bits tells of a number. -/
def wrapped (number : Nat) : Nat := number % UInt64.size

@[simp]
theorem wrapped_eq_self_iff {number : Nat} : wrapped number = number ↔ number < UInt64.size :=
  Nat.mod_eq_iff_lt (by decide)

@[simp]
theorem wrapped_mul_wrapped (count amount : Nat) :
    wrapped (count * wrapped amount) = wrapped (count * amount) :=
  Nat.mul_mod_mod ..

/-- What one iteration asks of the engine. -/
inductive Operation where
  | get
  | put
  | contains
  | delete
  | insert
  deriving DecidableEq

namespace Operation

/-- The name of an operation. -/
def label : Operation → String
  | get => "Get"
  | put => "Put"
  | contains => "Exists"
  | delete => "Delete"
  | insert => "Insert"

/-- The name of an operation in lower case. -/
def caseName : Operation → String
  | get => "get"
  | put => "put"
  | contains => "exists"
  | delete => "delete"
  | insert => "insert"

/-- Every operation. -/
def all : List Operation := [get, put, contains, delete, insert]

end Operation

/-- Fixed ratios of operations. -/
inductive Mix where
  | putOnly
  | readOnly
  | mixed
  deriving DecidableEq

namespace Mix

/-- The name of a mix. -/
def label : Mix → String
  | putOnly => "PutOnly"
  | readOnly => "ReadOnly"
  | mixed => "Mixed"

/-- The operations that a mix repeats. -/
def cycle : Mix → List Operation
  | putOnly => [.put]
  | readOnly => [.get]
  | mixed => [.get, .put, .contains, .insert]

theorem length_cycle_pos (mix : Mix) : 0 < mix.cycle.length := by
  cases mix <;> decide

/-- The operation of an iteration. -/
def operation (mix : Mix) (iteration : Nat) : Operation :=
  getElem mix.cycle (iteration % mix.cycle.length) (Nat.mod_lt iteration mix.length_cycle_pos)

/-- How often an operation stands in the cycle. -/
def occurrences (mix : Mix) (operation : Operation) : Nat := mix.cycle.count operation

/-- The part of the iterations that an operation gets. -/
def ratio (mix : Mix) (operation : Operation) : Binary64 :=
  .ofQuotient (mix.occurrences operation) mix.cycle.length

end Mix

/-- The name, the sizes and the mix of a workload. -/
structure Plan where
  name : String
  /-- The length of the keys. -/
  keySize : Nat
  /-- The length of the values. -/
  valueSize : Nat
  /-- The number of items made before the run. -/
  items : Nat
  mix : Mix := .putOnly
  deriving DecidableEq

namespace Plan

/-- The plan with another mix. -/
def withMix (plan : Plan) (mix : Mix) : Plan := { plan with mix := mix }

/-- The bytes of one key and one value. -/
def pairBytes (plan : Plan) : Nat := wrapped (plan.keySize + plan.valueSize)

/-- The bytes of all items. -/
def payloadBytes (plan : Plan) : Nat := wrapped (plan.pairBytes * plan.items)

/-- Plans of growing payload. -/
def scaling : List Plan :=
  [{ name := "small", keySize := 16, valueSize := 100, items := 1000 },
    { name := "medium", keySize := 32, valueSize := 1024, items := 1000 },
    { name := "large", keySize := 64, valueSize := 10 * 1024, items := 100 },
    { name := "xlarge", keySize := 128, valueSize := 100 * 1024, items := 100 }]

/-- The plan for reads and writes side by side. -/
def mixed : Plan :=
  { name := "mixed", keySize := 16, valueSize := 100, items := 1000, mix := .mixed }

/-- The plan in one line. -/
def outline (plan : Plan) : String :=
  Text.outlineRecord "WorkloadPlan"
    [("name", Text.quote plan.name), ("key_size", toString plan.keySize),
      ("value_size", toString plan.valueSize), ("item_count", toString plan.items),
      ("mix", plan.mix.label)]

end Plan

end StoreTrial
