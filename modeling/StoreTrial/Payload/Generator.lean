import StoreTrial.Entropy.Basic
import StoreTrial.Event
import StoreTrial.Payload.Alphabet
import StoreTrial.Payload.Key
import StoreTrial.Store.Basic
import Std.Data.ExtTreeSet

/-! # The payload generator

Keys and values spelled with the bytes of an entropy source. When the source
fails, the strict requests fail with it; the others take letters from the seed and
report it, the first time with a warning.
-/

namespace StoreTrial

/-- The seed of a generator that is given none. -/
def defaultSeed : UInt64 := 42

/-- A generator: its entropy source, the seed of its fallback, and whether the
fallback was reported. -/
structure Generator (ε : Type) where
  source : ε
  seed : UInt64
  reported : Bool := false
  deriving DecidableEq

/-- A drawn payload, what was reported while it was drawn, and the generator
afterwards. -/
structure Drawn (ε α : Type) where
  value : α
  events : List Event
  generator : Generator ε

/-- A computation that draws payloads. -/
def Draw (ε α : Type) := Generator ε → Drawn ε α

namespace Draw

variable {ε α β : Type}

/-- Draws nothing. -/
def pure (value : α) : Draw ε α := fun generator => ⟨value, [], generator⟩

/-- Draws what the first computation asks for, then what its value leads to. -/
def bind (first : Draw ε α) (next : α → Draw ε β) : Draw ε β := fun generator =>
  let drawn := first generator
  let more := next drawn.value drawn.generator
  ⟨more.value, drawn.events ++ more.events, more.generator⟩

/-- Draws what a computation asks for and applies a function to its value. -/
def map (f : α → β) (draw : Draw ε α) : Draw ε β := fun generator =>
  let drawn := draw generator
  ⟨f drawn.value, drawn.events, drawn.generator⟩

instance : Monad (Draw ε) where
  pure := pure
  bind := bind
  map := map

/-- Draws one payload after another. -/
def replicate (draw : Draw ε α) : (count : Nat) → Draw ε (List α)
  | 0 => pure []
  | count + 1 => bind draw fun first => map (first :: ·) (replicate draw count)

theorem length_replicate (draw : Draw ε α) (count : Nat) (generator : Generator ε) :
    (replicate draw count generator).value.length = count := by
  induction count generalizing generator with
  | zero => rfl
  | succ count ih => exact congrArg Nat.succ (ih _)

/-- Applying a function to the value is drawing and then returning what it gives. -/
theorem map_eq_bind (f : α → β) (draw : Draw ε α) :
    map f draw = bind draw fun value => pure (f value) := by
  funext generator
  simp only [map, bind, pure, List.append_nil]

theorem map_id (draw : Draw ε α) : map id draw = draw := rfl

theorem bind_assoc {γ : Type} (first : Draw ε α) (second : α → Draw ε β) (third : β → Draw ε γ) :
    bind (bind first second) third = bind first fun value => bind (second value) third := by
  funext generator
  simp only [bind, List.append_assoc]

instance : LawfulMonad (Draw ε) :=
  LawfulMonad.mk' (Draw ε) map_id (fun _ _ => rfl) bind_assoc (fun _ _ => rfl) (fun _ _ => rfl)
    (fun _ _ => rfl) (fun f draw => (map_eq_bind f draw).symm)

end Draw

namespace Generator

variable {ε : Type}

/-- The generator in one line. -/
def outline (generator : Generator ε) : String :=
  Text.outlineRecord "Generator" [("seed", toString generator.seed.toNat)]

/-- The letters a seed gives for a key. -/
def fallbackKey (seed : UInt64) (length : Nat) : Bytes := Alphabet.key.run seed length

/-- The distance between the letters a seed gives for keys and for values. -/
def valueOffset : UInt64 := 100

/-- The letters a seed gives for a value. -/
def fallbackValue (seed : UInt64) (length : Nat) : Bytes :=
  Alphabet.value.run (seed + valueOffset) length

/-- The length of the keys of pairs. -/
def pairKeyLength : Nat := 16

/-- The length of the values of pairs. -/
def pairValueLength : Nat := 64

variable [EntropySource ε]

/-- Spells a payload with the next bytes of the source. An empty payload takes
none. -/
def spelled (alphabet : Alphabet) (length : Nat) : Draw ε (Except Failure Bytes) :=
  fun generator =>
    if length = 0 then ⟨.ok [], [], generator⟩
    else
      let (filled, source) := EntropySource.fill generator.source length
      let payload := filled.map fun bytes => alphabet.spell bytes.val
      ⟨payload, [], { generator with source := source }⟩

/-- A key of a length, unless the source fails. -/
def key? (length : Nat) : Draw ε (Except Failure Bytes) := spelled .key length

/-- A value of a length, unless the source fails. -/
def value? (length : Nat) : Draw ε (Except Failure Bytes) := spelled .value length

/-- Reports the use of the fallback: a warning with the failure at first, and after
that a remark. -/
def reportFallback (failure : Failure) : Draw ε Unit := fun generator =>
  let event : Event :=
    if generator.reported then .fallbackRepeated generator.seed
    else .fallbackBegun generator.seed failure
  ⟨(), [event], { generator with reported := true }⟩

/-- The payload of a strict request, or the fallback for the seed of the generator
when the request failed. -/
def orFallback (fallback : UInt64 → Bytes) (request : Draw ε (Except Failure Bytes)) :
    Draw ε Bytes := do
  match ← request with
  | .ok payload => return payload
  | .error failure => do
      reportFallback failure
      fun generator => ⟨fallback generator.seed, [], generator⟩

/-- A key of a length. -/
def key (length : Nat) : Draw ε Bytes := orFallback (fallbackKey · length) (key? length)

/-- A value of a length. -/
def value (length : Nat) : Draw ε Bytes := orFallback (fallbackValue · length) (value? length)

/-- A key of a length that is none of the taken ones, of which there are
`index`. -/
def freeKey (length index : Nat) (taken : Bytes → Bool) : Draw ε Bytes := do
  return Key.free taken index (← key length)

/-- Keys that differ from each other and from the taken ones, of which there are
`index`. -/
def freeKeys (length : Nat) :
    (count index : Nat) → (taken : Std.ExtTreeSet Bytes compare) → Draw ε (List Bytes)
  | 0, _, _ => return []
  | count + 1, index, taken => do
      let first ← freeKey length index taken.contains
      (first :: ·) <$> freeKeys length count (index + 1) (taken.insert first)

/-- Keys of a length that differ from each other. -/
def uniqueKeys (count length : Nat) : Draw ε (List Bytes) := freeKeys length count 0 ∅

/-- Adds pairs of a free key and a value to the first `index` ones. -/
def addPairs : (count index : Nat) → Store → Draw ε Store
  | 0, _, pairs => return pairs
  | count + 1, index, pairs => do
      let key ← freeKey pairKeyLength index pairs.contains
      let value ← value pairValueLength
      addPairs count (index + 1) (pairs.insert key value)

/-- Pairs of different keys and values. -/
def pairs (count : Nat) : Draw ε Store := addPairs count 0 .empty

end Generator

end StoreTrial
