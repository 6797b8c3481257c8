import StoreTrial.Failure.Basic

/-! # Entropy

Sources of random bytes. A source fills a buffer of a given size or says why it
cannot, and either way goes on to its next state.
-/

namespace StoreTrial

/-- A byte string of a given length. -/
abbrev Filled (count : Nat) := { bytes : Bytes // bytes.length = count }

namespace Filled

/-- The byte string with a given byte at each position. -/
def ofPositions (count : Nat) (byteAt : Nat → UInt8) : Filled count :=
  ⟨(List.range count).map byteAt, by simp⟩

end Filled

/-- A source of random bytes with states of type `ε`. -/
class EntropySource (ε : Type) where
  /-- Fills a buffer, or says why that is impossible. -/
  fill : (source : ε) → (count : Nat) → Except Failure (Filled count) × ε

end StoreTrial
