import StoreTrial.Binary64

/-! # Measurements

What a measured loop reports, and the rates that follow from it.
-/

namespace StoreTrial

/-- The iterations of a measured loop, the nanoseconds it took, and the bytes it
wrote or read. -/
structure Measurement where
  iterations : Nat
  elapsed : Nat
  bytes : Nat
  deriving DecidableEq

namespace Measurement

/-- The nanoseconds of a second. -/
def nanosPerSecond : Nat := 1000000000

/-- The elapsed time in seconds: the whole seconds and the rest are rounded apart
and then added. -/
def seconds (measurement : Measurement) : Binary64 :=
  .add (.ofNat (measurement.elapsed / nanosPerSecond))
    (.div (.ofNat (measurement.elapsed % nanosPerSecond)) (.ofNat nanosPerSecond))

/-- The nanoseconds of an iteration on average. -/
def nanosPerStep (measurement : Measurement) : Binary64 :=
  if measurement.iterations = 0 then .ofNat 0
  else .div (.ofNat measurement.elapsed) (.ofNat measurement.iterations)

/-- The iterations of a second. -/
def stepsPerSecond (measurement : Measurement) : Binary64 :=
  if measurement.seconds.isZero then .ofNat 0
  else .div (.ofNat measurement.iterations) measurement.seconds

end Measurement

end StoreTrial
