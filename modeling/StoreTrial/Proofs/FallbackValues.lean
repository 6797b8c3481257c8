import StoreTrial.Proofs.WorkloadCalls

/-! # Values of a source that fails

The letters that a seed gives for a value go round the alphabet, and neighbours are different even
where the numbers of 64 bits begin again (`StoreTrial.Alphabet.letter_value_succ_ne`). So a value of
two letters or more changes when it is rotated, and a mix whose source fails overwrites with two
different values (`StoreTrial.Workload.fallback_values_differ`).
-/

namespace StoreTrial

namespace Alphabet

/-- Numbers pick one letter exactly if they have one remainder, when no letter stands twice. -/
theorem letter_eq_letter_iff {alphabet : Alphabet} (different : alphabet.text.Nodup)
    {first second : Nat} :
    alphabet.letter first = alphabet.letter second ↔
      first % alphabet.size = second % alphabet.size := by
  simp only [letter, ← Array.getElem_toList]
  exact different.getElem_inj_iff

theorem nodup_value : Alphabet.value.text.Nodup := by decide +kernel

/-- Neighbouring numbers pick different letters for values. The largest number of 64 bits does not
pick the first letter, which comes after it. -/
theorem letter_value_succ_ne (number : UInt64) :
    Alphabet.value.letter number.toNat ≠ Alphabet.value.letter (number + 1).toNat := by
  have size : Alphabet.value.size = 76 := by decide
  have bound := number.toNat_lt
  rw [Ne, letter_eq_letter_iff nodup_value, size, UInt64.toNat_add]
  simp only [UInt64.reduceToNat]
  omega

theorem getElem?_run {alphabet : Alphabet} {start : UInt64} {length position : Nat}
    (inside : position < length) :
    (alphabet.run start length)[position]? =
      some (alphabet.letter (start + position.toUInt64).toNat) := by
  simp [run, inside]

end Alphabet

namespace Generator

/-- Neighbours in the value that a seed gives are different. -/
theorem getElem?_fallbackValue_ne {seed : UInt64} {length position : Nat}
    (inside : position + 1 < length) :
    (fallbackValue seed length)[position]? ≠ (fallbackValue seed length)[position + 1]? := by
  have next : seed + valueOffset + (position + 1).toUInt64 =
      seed + valueOffset + position.toUInt64 + 1 := by
    rw [UInt64.add_assoc (seed + valueOffset)]
    congr 1
    exact UInt64.ofNat_add position 1
  rw [fallbackValue, Alphabet.getElem?_run inside, Alphabet.getElem?_run (by omega), next]
  simpa using Alphabet.letter_value_succ_ne (seed + valueOffset + position.toUInt64)

variable {ε : Type} [EntropySource ε]

/-- The source of a generator fails to fill a buffer of a size. -/
def Fails (generator : Generator ε) (size : Nat) : Prop :=
  ∃ failure, (EntropySource.fill generator.source size).1 = .error failure

/-- A value that is not empty is the one that the seed gives, when the source fails. -/
theorem value_of_fails {generator : Generator ε} {length : Nat} (positive : 0 < length)
    (fails : generator.Fails length) :
    (value length generator).value = fallbackValue generator.seed length := by
  obtain ⟨failure, refused⟩ := fails
  have request : value? length generator =
      ⟨.error failure, [],
        { generator with source := (EntropySource.fill generator.source length).2 }⟩ := by
    rw [value?, spelled, if_neg (Nat.ne_of_gt positive)]
    simp [refused, Except.map]
  rw [value, orFallback_of_error (congrArg Drawn.value request), request]

end Generator

namespace MixedValues

/-- Rotating bytes that begin with two different ones changes them. -/
theorem rotated_ne {bytes : Bytes} (wide : 2 ≤ bytes.length) (varied : bytes[0]? ≠ bytes[1]?) :
    bytes.drop 1 ++ bytes.take 1 ≠ bytes := by
  intro same
  have filled : 0 < (bytes.drop 1).length := by
    rw [List.length_drop]
    omega
  have first : (bytes.drop 1 ++ bytes.take 1)[0]? = bytes[1]? := by
    rw [List.getElem?_append_left filled, List.getElem?_drop]
  rw [same] at first
  exact varied first

/-- Of two values one of which begins with two different bytes, the second is told apart from the
first. -/
theorem toldApart_ne {first second : Bytes} (wide : 2 ≤ first.length)
    (varied : first[0]? ≠ first[1]? ∨ second[0]? ≠ second[1]?) :
    first ≠ toldApart first second := by
  rw [toldApart]
  split
  · rename_i same
    rw [same, or_self] at varied
    rw [same]
    exact (rotated_ne wide varied).symm
  · rename_i different
    exact fun same => different same.symm

variable {ε : Type} [EntropySource ε]

/-- The source of a generator fails while one of the two values is drawn that a mix overwrites
with. -/
def FailsFresh (plan : Plan) (generator : Generator ε) : Prop :=
  let first := (Generator.value plan.valueSize generator).generator
  let second := (Generator.value plan.valueSize first).generator
  first.Fails plan.valueSize ∨ second.Fails plan.valueSize

theorem isPayload_toldApart {first second : Bytes} {length : Nat}
    (payload : Alphabet.value.IsPayload length second) :
    Alphabet.value.IsPayload length (toldApart first second) where
  full := toldApart_perm.length_eq.trans payload.full
  letters := fun byte member => payload.letters byte (toldApart_perm.mem_iff.mp member)

/-- The values that a mix overwrites with are different if the source fails while one of them is
drawn. -/
theorem different_of_failsFresh {plan : Plan} (wide : 2 ≤ plan.valueSize) {generator : Generator ε}
    (fails : FailsFresh plan generator) :
    (draw plan generator).value.first ≠ (draw plan generator).value.second := by
  have positive : 0 < plan.valueSize := by omega
  have varied {drawn : Generator ε} (fails : drawn.Fails plan.valueSize) :
      (Generator.value plan.valueSize drawn).value[0]? ≠
        (Generator.value plan.valueSize drawn).value[1]? := by
    rw [Generator.value_of_fails positive fails]
    exact Generator.getElem?_fallbackValue_ne wide
  apply toldApart_ne
  · have full : (draw plan generator).value.first.length = plan.valueSize :=
      (Generator.isPayload_value _ _).full
    rwa [full]
  · exact fails.imp varied varied

end MixedValues

namespace Workload

variable {σ ε : Type} [EntropySource ε] {plan : Plan}

/-- Preparing a mix with values gives what is drawn for it exactly if there are items and every put
of them is granted. -/
theorem prepareMixed_eq_ok_iff (valued : 0 < plan.valueSize) (generator : Generator ε)
    (engine : Engine σ) (clock : Nat → Nat) (start : σ × Nat) (prepared : Prepared) :
    let script := (prepareMixed plan).script generator
    (script.run (Probe.answer engine clock) start).1.1 = .ok prepared ↔
      prepared = mixedPrepared plan (MixedValues.draw plan generator).value ∧ 0 < plan.items ∧
        ∀ call ∈ script.calls engine clock start,
          ∃ answer, (engine call.2 call.1).1 = .ok answer := by
  intro script
  by_cases items : 0 < plan.items
  · obtain ⟨made, outcome, later, after, ends, turns, _⟩ :=
      makes_prepareMixed items valued generator engine clock start
    rw [ends.calls, ends.run, ← turns.eq_ok_iff]
    cases outcome with
    | ok granted => simp [Outcome.followedBy, items, eq_comm]
    | error stop => simp [Outcome.followedBy]
  · have none : plan.items = 0 := Nat.eq_zero_of_not_pos items
    have rejects : Probing.Makes (prepareMixed plan) generator []
        (.error (.failed (.invalidOperation (.nothingToMix plan.name)))) generator := by
      rw [prepareMixed, if_pos none]
      exact makes_fail _ _ _
    obtain ⟨made, outcome, later, after, ends, turns, _⟩ := rejects engine clock start
    rw [ends.run]
    cases outcome with
    | ok granted => simp [Outcome.followedBy, items]
    | error stop => simp [Outcome.followedBy, items]

/-- **A mix whose source fails overwrites with two different values.** Both have the asked length,
of two letters at least, and letters for values only. They differ because neighbours in the value of
a seed do, also where the numbers of 64 bits begin again. -/
theorem fallback_values_differ (plan : Plan) (wide : 2 ≤ plan.valueSize) (generator : Generator ε)
    (fails : MixedValues.FailsFresh plan generator) (engine : Engine σ) (clock : Nat → Nat)
    (start : σ × Nat) :
    let script := (prepareMixed plan).script generator
    let calls := script.calls engine clock start
    let outcome := (script.run (Probe.answer engine clock) start).1.1
    ((∃ prepared, outcome = .ok prepared) ↔ 0 < plan.items ∧
      ∀ call ∈ calls, ∃ answer, (engine call.2 call.1).1 = .ok answer) ∧
    (∀ prepared, outcome = .ok prepared →
      ∃ first second, prepared.values = #[first, second] ∧ first ≠ second ∧
        Alphabet.value.IsPayload plan.valueSize first ∧
        Alphabet.value.IsPayload plan.valueSize second) ∧
    ∀ seed length position, position + 1 < length →
      (Generator.fallbackValue seed length)[position]? ≠
        (Generator.fallbackValue seed length)[position + 1]? := by
  intro script calls outcome
  have returns := prepareMixed_eq_ok_iff (Nat.lt_of_lt_of_le Nat.two_pos wide) generator engine
    clock start
  refine ⟨?_, ?_, fun seed length position inside => Generator.getElem?_fallbackValue_ne inside⟩
  · simp only [outcome, script, returns, exists_eq_left, calls]
  · intro prepared fine
    obtain ⟨rfl, -⟩ := (returns prepared).mp fine
    exact ⟨_, _, rfl, MixedValues.different_of_failsFresh wide fails,
      Generator.isPayload_value _ _,
      MixedValues.isPayload_toldApart (Generator.isPayload_value _ _)⟩

/-- The letters of the seed's value go past the largest number, and the second value is the first
one rotated. -/
theorem fallback_values_differ_past_the_largest :
    let plan : Plan := { name := "m", keySize := 1, valueSize := 3, items := 1, mix := .mixed }
    let generator : Generator Source := { source := .unavailable, seed := 0 - 101 }
    let engine := granting 1 (.engine "disk on fire")
    let prepared : Prepared :=
      ⟨#[Key.sequential "mixed-" 0], #[Bytes.ofText "Jab", Bytes.ofText "abJ"]⟩
    (2 ≤ plan.valueSize ∧ MixedValues.FailsFresh plan generator) ∧
      (((prepareMixed plan).script generator).run (Probe.answer engine id) (0, 0)).1.1 =
        .ok prepared ∧
      ∃ first second, prepared.values = #[first, second] ∧ first ≠ second := by
  intro plan generator engine prepared
  have wide : 2 ≤ plan.valueSize := by decide
  have fails : MixedValues.FailsFresh plan generator := .inl ⟨Source.unavailableFailure, rfl⟩
  have returned :
      (((prepareMixed plan).script generator).run (Probe.answer engine id) (0, 0)).1.1 =
        .ok prepared := by
    decide +kernel
  obtain ⟨-, values, -⟩ := fallback_values_differ plan wide generator fails engine id (0, 0)
  obtain ⟨first, second, drawn, different, -⟩ := values prepared returned
  exact ⟨⟨wide, fails⟩, returned, first, second, drawn, different⟩

end Workload

end StoreTrial
