import Mathlib.Algebra.Group.Nat.Defs
import Mathlib.Data.List.Nodup
import Mathlib.Data.List.Perm.Subperm
import StoreTrial.Proofs.NumberedKeys
import StoreTrial.Proofs.PayloadLetters

/-! # Keys that are free

A taken key is changed, with one number after another at its end, until it is free. Numbers of the
same width give different keys, whatever they replace. Of the first `2 * index + 1` numbers from
`index` on more than `index` have the same width (`StoreTrial.Key.exists_same_width`), so `index`
taken keys cannot be all of their keys (`StoreTrial.Key.not_taken_free`).
-/

namespace StoreTrial

namespace Key

variable {width small large : Nat}

theorem length_digits (width number : Nat) :
    (digits width number).length = max width (Nat.toDigits 10 number).length := by
  rw [digits, Bytes.ofChars, List.length_map, Text.padded, List.length_append,
    List.length_replicate]
  omega

theorem length_digits_pos (width number : Nat) : 0 < (digits width number).length := by
  rw [length_digits]
  exact Nat.lt_of_lt_of_le Nat.length_toDigits_pos (Nat.le_max_right _ _)

theorem length_digits_le_iff {number length : Nat} (wide : width ≤ length) (positive : 0 < length) :
    (digits width number).length ≤ length ↔ number < 10 ^ length := by
  rw [length_digits, Nat.max_le, Nat.length_toDigits_le_iff (by decide) positive]
  exact and_iff_right wide

/-- The digits of one number leave room for those of another that fits in as many. -/
theorem length_digits_le_length_digits_iff {number other : Nat} :
    (digits width number).length ≤ (digits width other).length ↔
      number < 10 ^ (digits width other).length := by
  apply length_digits_le_iff _ (length_digits_pos width other)
  rw [length_digits]
  exact Nat.le_max_left _ _

theorem lt_of_length_digits (width number : Nat) :
    number < 10 ^ (digits width number).length :=
  length_digits_le_length_digits_iff.mp (Nat.le_refl _)

theorem length_digits_mono (smaller : small ≤ large) :
    (digits width small).length ≤ (digits width large).length :=
  length_digits_le_length_digits_iff.mpr
    (Nat.lt_of_le_of_lt smaller (lt_of_length_digits width large))

/-- A number can outgrow its width on the way to its double or from there to its triple, but not
both times. -/
theorem length_digits_double_or_triple (width number : Nat) :
    (digits width (2 * number)).length = (digits width number).length ∨
      (digits width (3 * number)).length = (digits width (2 * number)).length := by
  by_cases outgrown : 2 * number < 10 ^ (digits width number).length
  · have fits := length_digits_le_length_digits_iff.mpr outgrown
    exact .inl (Nat.le_antisymm fits (length_digits_mono (by omega)))
  · right
    have small := lt_of_length_digits width number
    have wider : (digits width number).length < (digits width (2 * number)).length := by
      by_contra narrow
      apply outgrown
      calc 2 * number < 10 ^ (digits width (2 * number)).length := lt_of_length_digits ..
        _ ≤ 10 ^ (digits width number).length := Nat.pow_le_pow_right (by decide) (by omega)
    have fits : 3 * number < 10 ^ (digits width (2 * number)).length := by
      calc 3 * number < 10 ^ (digits width number).length * 10 := by omega
        _ = 10 ^ ((digits width number).length + 1) := (Nat.pow_succ ..).symm
        _ ≤ 10 ^ (digits width (2 * number)).length := Nat.pow_le_pow_right (by decide) wider
    exact Nat.le_antisymm (length_digits_le_length_digits_iff.mpr fits)
      (length_digits_mono (by omega))

/-- Among the numbers from `index` to `3 * index` there are `index + 1` in a row of one width. -/
theorem exists_same_width (width index : Nat) :
    ∃ first ≤ index, ∀ offset ≤ index,
      (digits width (index + (first + offset))).length =
        (digits width (index + first)).length := by
  have between (first : Nat)
      (even : (digits width (index + first + index)).length =
        (digits width (index + first)).length) (offset : Nat) (bound : offset ≤ index) :
      (digits width (index + (first + offset))).length =
        (digits width (index + first)).length := by
    apply Nat.le_antisymm
    · rw [← even]
      exact length_digits_mono (by omega)
    · exact length_digits_mono (by omega)
  rcases length_digits_double_or_triple width index with double | triple
  · exact ⟨0, Nat.zero_le _, between 0 (by rw [Nat.add_zero, ← Nat.two_mul, double])⟩
  · refine ⟨index, Nat.le_refl _, between index ?_⟩
    rw [← Nat.two_mul, ← triple]
    congr 2
    omega

/-- A key after a number of changes, the first with a given salt. -/
def changed (key : Bytes) (salt : Nat) : (count : Nat) → Bytes
  | 0 => key
  | count + 1 => disambiguate (changed key salt count) (salt + count)

theorem changed_disambiguate (key : Bytes) (salt count : Nat) :
    changed (disambiguate key salt) (salt + 1) count = changed key salt (count + 1) := by
  induction count with
  | zero => rfl
  | succ count ih =>
      rw [changed, ih, Nat.add_assoc, Nat.add_comm 1 count]
      rfl

/-- Changes with different numbers of one width give different keys. -/
theorem disambiguate_ne {left right : Bytes} {salt other : Nat}
    (width : (digits sequentialWidth salt).length = (digits sequentialWidth other).length)
    (different : salt ≠ other) : disambiguate left salt ≠ disambiguate right other := by
  intro same
  exact different (digits_inj.mp (List.append_inj_right' same width))

variable {taken : Bytes → Bool} {fuel salt index : Nat} {key : Bytes}

/-- Changing ends with a taken key only if the key was taken after each number of changes. -/
theorem taken_changed_of_resolve (stuck : taken (resolve taken fuel salt key) = true)
    {count : Nat} (bound : count ≤ fuel) : taken (changed key salt count) = true := by
  induction fuel generalizing salt key count with
  | zero =>
      obtain rfl : count = 0 := Nat.le_zero.mp bound
      exact stuck
  | succ fuel ih =>
      rw [resolve] at stuck
      split at stuck
      · rename_i first
        cases count with
        | zero => exact first
        | succ count =>
            rw [← changed_disambiguate]
            exact ih stuck (Nat.le_of_succ_le_succ bound)
      · rename_i free
        exact absurd stuck free

/-- **A key that is made free is not taken**, if no more keys than the given number are taken. -/
theorem not_taken_free {listed : List Bytes}
    (covers : ∀ key, taken key = true → key ∈ listed) (few : listed.length ≤ index)
    (key : Bytes) : taken (free taken index key) = false := by
  by_contra stuck
  rw [Bool.not_eq_false] at stuck
  obtain ⟨first, early, same⟩ := exists_same_width sequentialWidth index
  let candidates := (List.range (index + 1)).map fun offset =>
    changed key index (first + offset + 1)
  have different : candidates.Nodup := by
    apply List.Nodup.map_on _ List.nodup_range
    intro left leftBound right rightBound equal
    by_contra apart
    rw [List.mem_range] at leftBound rightBound
    apply disambiguate_ne _ _ equal
    · rw [same left (by omega), same right (by omega)]
    · omega
  have within : candidates ⊆ listed := by
    intro candidate member
    obtain ⟨offset, bound, rfl⟩ := List.mem_map.mp member
    rw [List.mem_range] at bound
    exact covers _ (taken_changed_of_resolve stuck (by omega))
  have many : candidates.length ≤ listed.length := (different.subperm within).length_le
  rw [List.length_map, List.length_range] at many
  omega

theorem mem_text_of_mem_digits {width number : Nat} {byte : UInt8}
    (member : byte ∈ digits width number) : byte ∈ Alphabet.key.text := by
  obtain ⟨c, digit, rfl⟩ := List.mem_map.mp member
  obtain ⟨low, high⟩ := Char.isDigit_iff_toNat.mp (Text.isDigit_of_mem_padded digit)
  have listed : ∀ code ≤ '9'.toNat, '0'.toNat ≤ code → code.toUInt8 ∈ Alphabet.key.text := by
    decide
  exact listed c.toNat high low

variable {length : Nat}

theorem isPayload_disambiguate (payload : Alphabet.key.IsPayload length key)
    (fits : (digits sequentialWidth salt).length ≤ length) :
    Alphabet.key.IsPayload length (disambiguate key salt) where
  full := by
    rw [disambiguate, List.length_append, List.length_take, payload.full]
    omega
  letters := by
    intro byte member
    rcases List.mem_append.mp member with kept | digit
    · exact payload.letters byte (List.mem_of_mem_take kept)
    · exact mem_text_of_mem_digits digit

theorem isPayload_resolve (payload : Alphabet.key.IsPayload length key)
    (wide : sequentialWidth ≤ length) (room : salt + fuel ≤ 10 ^ length) :
    Alphabet.key.IsPayload length (resolve taken fuel salt key) := by
  induction fuel generalizing salt key with
  | zero => exact payload
  | succ fuel ih =>
      rw [resolve]
      split
      · have fits : (digits sequentialWidth salt).length ≤ length := by
          rw [length_digits_le_iff wide (Nat.lt_of_lt_of_le (by decide) wide)]
          omega
        exact ih (isPayload_disambiguate payload fits) (by omega)
      · exact payload

/-- A key that is made free keeps its length, if three times the number of taken keys has no more
digits than it. -/
theorem isPayload_free (payload : Alphabet.key.IsPayload length key)
    (wide : sequentialWidth ≤ length) (room : 3 * index < 10 ^ length) :
    Alphabet.key.IsPayload length (free taken index key) :=
  isPayload_resolve payload wide (by omega)

end Key

end StoreTrial
