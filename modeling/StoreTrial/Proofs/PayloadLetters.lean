import StoreTrial.Payload.Generator

/-! # Letters of payloads

A payload that a generator is asked for has the asked length and letters of its alphabet only,
whatever the entropy source does: the bytes of a fill and the numbers of the fallback pick letters
alike (`StoreTrial.Generator.isPayload_key`, `StoreTrial.Generator.isPayload_value`).
-/

namespace StoreTrial

namespace Alphabet

variable {alphabet : Alphabet} {length : Nat} {bytes : Bytes}

/-- So many letters of an alphabet. -/
structure IsPayload (alphabet : Alphabet) (length : Nat) (bytes : Bytes) : Prop where
  full : bytes.length = length
  letters : ∀ byte ∈ bytes, byte ∈ alphabet.text

theorem isPayload_iff :
    alphabet.IsPayload length bytes ↔
      (bytes.length == length && bytes.all alphabet.text.contains) = true := by
  simp only [Bool.and_eq_true, beq_iff_eq, List.all_eq_true, List.contains_iff_mem]
  exact ⟨fun payload => ⟨payload.full, payload.letters⟩, fun ⟨full, letters⟩ => ⟨full, letters⟩⟩

instance (alphabet : Alphabet) (length : Nat) (bytes : Bytes) :
    Decidable (alphabet.IsPayload length bytes) :=
  decidable_of_iff _ isPayload_iff.symm

theorem isPayload_spell (alphabet : Alphabet) (bytes : Bytes) :
    alphabet.IsPayload bytes.length (alphabet.spell bytes) where
  full := alphabet.length_spell bytes
  letters := by
    intro letter member
    obtain ⟨byte, _, rfl⟩ := List.mem_map.mp member
    exact alphabet.letter_mem_text byte.toNat

theorem isPayload_run (alphabet : Alphabet) (start : UInt64) (length : Nat) :
    alphabet.IsPayload length (alphabet.run start length) where
  full := alphabet.length_run start length
  letters := by
    intro letter member
    obtain ⟨index, _, rfl⟩ := List.mem_map.mp member
    exact alphabet.letter_mem_text _

end Alphabet

namespace Generator

variable {ε : Type}

section Fallback

variable {fallback : UInt64 → Bytes} {request : Draw ε (Except Failure Bytes)}
  {generator : Generator ε}

theorem orFallback_of_ok {payload : Bytes} (granted : (request generator).value = .ok payload) :
    orFallback fallback request generator =
      ⟨payload, (request generator).events, (request generator).generator⟩ := by
  simp only [orFallback, bind, Draw.bind, granted]
  exact congrArg (Drawn.mk payload · _) (List.append_nil _)

theorem orFallback_of_error {failure : Failure}
    (refused : (request generator).value = .error failure) :
    orFallback fallback request generator =
      ⟨fallback (request generator).generator.seed,
        (request generator).events ++ (reportFallback failure (request generator).generator).events,
        { (request generator).generator with reported := true }⟩ := by
  simp only [orFallback, bind, Draw.bind, refused]
  rfl

/-- What holds of every granted request and of every fallback holds of the payload. -/
theorem orFallback_of_forall {property : Bytes → Prop}
    (granted : ∀ payload, (request generator).value = .ok payload → property payload)
    (fallen : ∀ seed, property (fallback seed)) :
    property (orFallback fallback request generator).value := by
  cases drawn : (request generator).value with
  | ok payload =>
      rw [orFallback_of_ok drawn]
      exact granted payload drawn
  | error failure =>
      rw [orFallback_of_error drawn]
      exact fallen _

end Fallback

variable [EntropySource ε]

theorem isPayload_of_spelled {alphabet : Alphabet} {length : Nat} {generator : Generator ε}
    {payload : Bytes} (drawn : (spelled alphabet length generator).value = .ok payload) :
    alphabet.IsPayload length payload := by
  rw [spelled] at drawn
  split at drawn
  · rename_i empty
    cases drawn
    exact ⟨empty.symm, fun byte member => absurd member List.not_mem_nil⟩
  · cases filled : (EntropySource.fill generator.source length).1 with
    | error failure => simp [filled, Except.map] at drawn
    | ok bytes =>
        simp only [filled, Except.map, Except.ok.injEq] at drawn
        rw [← drawn]
        simpa only [bytes.property] using alphabet.isPayload_spell bytes.val

theorem isPayload_key (length : Nat) (generator : Generator ε) :
    Alphabet.key.IsPayload length (key length generator).value :=
  orFallback_of_forall (fun _ drawn => isPayload_of_spelled drawn)
    fun seed => Alphabet.key.isPayload_run seed length

theorem isPayload_value (length : Nat) (generator : Generator ε) :
    Alphabet.value.IsPayload length (value length generator).value :=
  orFallback_of_forall (fun _ drawn => isPayload_of_spelled drawn)
    fun seed => Alphabet.value.isPayload_run (seed + valueOffset) length

end Generator

end StoreTrial
