import StoreTrial.Entropy.ChaCha

/-! # Kinds of entropy sources

A source that is never available, one that repeats its bytes for a seed, and one
that follows a list of outcomes over and over.
-/

namespace StoreTrial

/-- A planned outcome of a fill: a pattern repeated over the buffer, or a failure. -/
inductive PlannedFill where
  | pattern (bytes : Array UInt8)
  | refusal (failure : Failure)
  deriving DecidableEq

/-- The outcome of a planned fill for a buffer. -/
def PlannedFill.outcome (count : Nat) : PlannedFill → Except Failure (Filled count)
  | .pattern bytes => .ok (.ofPositions count fun index => bytes.getD (index % bytes.size) 0)
  | .refusal failure => .error failure

/-- An entropy source and its state. -/
inductive Source where
  | unavailable
  | seeded (stream : ChaCha)
  | planned (outcomes : Array PlannedFill) (fills : Nat)
  deriving DecidableEq

namespace Source

/-- What a source that has nothing to give answers. -/
def unavailableFailure : Failure := .entropy "entropy source unavailable"

/-- The source that repeats its bytes for a seed. -/
def ofSeed (seed : UInt64) : Source := .seeded (.ofSeed seed)

/-- Fills a buffer. Every fill moves a planned source to its next outcome. -/
def fill (source : Source) (count : Nat) : Except Failure (Filled count) × Source :=
  match source with
  | .unavailable => (.error unavailableFailure, .unavailable)
  | .seeded stream =>
      let (bytes, next) := stream.fill count
      (.ok bytes, .seeded next)
  | .planned outcomes fills =>
      match outcomes[fills % outcomes.size]? with
      | some outcome => (outcome.outcome count, .planned outcomes (fills + 1))
      | none => (.error unavailableFailure, .planned outcomes (fills + 1))

instance : EntropySource Source where
  fill := fill

end Source

end StoreTrial
