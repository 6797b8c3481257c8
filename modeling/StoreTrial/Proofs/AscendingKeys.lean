import StoreTrial.Proofs.FreeKeys

/-! # Keys in ascending order

Rows of digits of one length sort as the numbers they write
(`StoreTrial.Bytes.ofChars_lt_ofChars`), since the first digit in which they differ decides both.
So keys of one kind sort as their numbers do, as long as they are equally long
(`StoreTrial.Key.sequential_ascends`).
-/

namespace StoreTrial

namespace Bytes

variable {left right : List Char}

/-- Digits after the larger number write the larger number. -/
theorem ofDigitChars_lt_ofDigitChars {small large : Nat}
    (digits : ∀ c ∈ left, c.isDigit = true) (same : left.length = right.length)
    (less : small < large) :
    Nat.ofDigitChars 10 left small < Nat.ofDigitChars 10 right large := by
  induction left generalizing right small large with
  | nil =>
      rw [List.eq_nil_of_length_eq_zero same.symm]
      exact less
  | cons c left ih =>
      cases right with
      | nil => simp at same
      | cons d right =>
          obtain ⟨digit, others⟩ := List.forall_mem_cons.mp digits
          have bound : c.toNat ≤ '9'.toNat := (Char.isDigit_iff_toNat.mp digit).2
          rw [Nat.ofDigitChars_cons, Nat.ofDigitChars_cons]
          apply ih others (Nat.succ.inj same)
          simp only [Char.reduceToNat] at bound ⊢
          omega

/-- Digits as bytes sort as the digits do. -/
theorem toUInt8_lt_toUInt8 {c d : Char} (first : c.isDigit = true) (second : d.isDigit = true)
    (less : c.toNat < d.toNat) : c.toNat.toUInt8 < d.toNat.toUInt8 := by
  have byte (c : Char) (digit : c.isDigit = true) : c.toNat.toUInt8.toNat = c.toNat := by
    have small : c.toNat ≤ '9'.toNat := (Char.isDigit_iff_toNat.mp digit).2
    exact Nat.mod_eq_of_lt (Nat.lt_of_le_of_lt small (by decide))
  rwa [UInt8.lt_iff_toNat_lt, byte c first, byte d second]

/-- Rows of digits of one length sort as the numbers that they write after the same digits. -/
theorem ofChars_lt_ofChars {start : Nat} (leftDigits : ∀ c ∈ left, c.isDigit = true)
    (rightDigits : ∀ c ∈ right, c.isDigit = true) (same : left.length = right.length)
    (less : Nat.ofDigitChars 10 left start < Nat.ofDigitChars 10 right start) :
    ofChars left < ofChars right := by
  induction left generalizing right start with
  | nil =>
      rw [List.eq_nil_of_length_eq_zero same.symm] at less
      exact absurd less (Nat.lt_irrefl _)
  | cons c left ih =>
      cases right with
      | nil => simp at same
      | cons d right =>
          obtain ⟨first, leftDigits⟩ := List.forall_mem_cons.mp leftDigits
          obtain ⟨second, rightDigits⟩ := List.forall_mem_cons.mp rightDigits
          have length : left.length = right.length := Nat.succ.inj same
          rw [Nat.ofDigitChars_cons, Nat.ofDigitChars_cons] at less
          apply List.cons_lt_cons_iff.mpr
          rcases Nat.lt_trichotomy c.toNat d.toNat with smaller | equal | larger
          · exact .inl (toUInt8_lt_toUInt8 first second smaller)
          · rw [equal] at less
            exact .inr ⟨congrArg _ equal, ih leftDigits rightDigits length less⟩
          · have low : '0'.toNat ≤ d.toNat := (Char.isDigit_iff_toNat.mp second).1
            have reversed :
                Nat.ofDigitChars 10 right (10 * start + (d.toNat - '0'.toNat)) <
                  Nat.ofDigitChars 10 left (10 * start + (c.toNat - '0'.toNat)) :=
              ofDigitChars_lt_ofDigitChars rightDigits length.symm (by omega)
            exact absurd reversed (Nat.lt_asymm less)

end Bytes

namespace Key

variable {width index number : Nat}

theorem digits_lt_digits (less : index < number)
    (same : (digits width index).length = (digits width number).length) :
    digits width index < digits width number := by
  rw [digits, digits, Bytes.ofChars, Bytes.ofChars, List.length_map, List.length_map] at same
  apply Bytes.ofChars_lt_ofChars (fun _ => Text.isDigit_of_mem_padded)
    (fun _ => Text.isDigit_of_mem_padded) same
  rwa [Text.ofDigitChars_padded, Text.ofDigitChars_padded]

/-- Two numbers are written equally long if the larger one fits in the least width, or if they have
as many digits. -/
theorem length_digits_eq_iff (less : index < number) (positive : 0 < width) :
    (digits width index).length = (digits width number).length ↔
      number < 10 ^ width ∨
        (Nat.toDigits 10 index).length = (Nat.toDigits 10 number).length := by
  have fits := Nat.length_toDigits_le_iff (n := number) (by decide : 1 < 10) positive
  have narrower : (Nat.toDigits 10 index).length ≤ (Nat.toDigits 10 number).length := by
    rw [Nat.length_toDigits_le_iff (by decide) Nat.length_toDigits_pos]
    exact Nat.lt_trans less ((Nat.length_toDigits_le_iff (by decide) Nat.length_toDigits_pos).mp
      (Nat.le_refl _))
  rw [length_digits, length_digits, ← fits]
  omega

theorem length_sequential_eq_iff {stem : String} :
    (sequential stem index).length = (sequential stem number).length ↔
      (digits sequentialWidth index).length = (digits sequentialWidth number).length := by
  rw [sequential, sequential, List.length_append, List.length_append, Nat.add_left_cancel_iff]

theorem sequential_lt_sequential {stem : String} (less : index < number)
    (same : (sequential stem index).length = (sequential stem number).length) :
    sequential stem index < sequential stem number :=
  List.append_left_lt (digits_lt_digits less (length_sequential_eq_iff.mp same))

/-- **Keys of numbers are different, and sort as the numbers when they are equally long.** They are
so if the numbers fit in the least width, or else if they have as many digits. So the first million
keys come in ascending order. -/
theorem sequential_ascends (stem : String) :
    (∀ index number, index < number →
      let first := sequential stem index
      let second := sequential stem number
      first ≠ second ∧
      (first.length = second.length ↔ number ≤ 999999 ∨
        (Nat.toDigits 10 index).length = (Nat.toDigits 10 number).length) ∧
      (first.length = second.length → first < second)) ∧
    ∀ count,
      let keys := sequentialKeys stem count
      keys.length = count ∧ keys.Nodup ∧ (count ≤ 1000000 → keys.Pairwise (· < ·)) := by
  have equally (index number : Nat) (less : index < number) :
      (sequential stem index).length = (sequential stem number).length ↔ number ≤ 999999 ∨
        (Nat.toDigits 10 index).length = (Nat.toDigits 10 number).length := by
    rw [length_sequential_eq_iff, length_digits_eq_iff less (by decide)]
    exact or_congr_left Nat.lt_succ_iff
  constructor
  · intro index number less first second
    refine ⟨fun same => ?_, equally index number less, sequential_lt_sequential less⟩
    exact absurd (sequential_inj.mp same) (Nat.ne_of_lt less)
  · intro count keys
    refine ⟨length_sequentialKeys stem count, nodup_sequentialKeys stem count, fun few => ?_⟩
    apply List.pairwise_map.mpr
    apply List.pairwise_lt_range.imp_of_mem
    intro index number _ member less
    have bound : number < count := List.mem_range.mp member
    exact sequential_lt_sequential less ((equally index number less).mpr (.inl (by omega)))

/-- The last two keys of six digits are in order, and so are keys of seven digits; a million keys
fill the six digits. -/
theorem sequential_ascends_at_capacity :
    (999998 < 999999 ∧ 1000000 < 9999999 ∧ 1000000 ≤ 1000000) ∧
      sequential "k" 999998 < sequential "k" 999999 ∧
      sequential "k" 1000000 < sequential "k" 9999999 ∧
      sequential "k" 999999 ≠ sequential "k" 1000000 ∧
      (sequentialKeys "k" 1000000).Pairwise (· < ·) := by
  obtain ⟨numbers, lists⟩ := sequential_ascends "k"
  obtain ⟨-, -, padded⟩ := numbers 999998 999999 (by decide)
  obtain ⟨-, equally, wide⟩ := numbers 1000000 9999999 (by decide)
  obtain ⟨apart, -, -⟩ := numbers 999999 1000000 (by decide)
  obtain ⟨-, -, ascending⟩ := lists 1000000
  exact ⟨by decide, padded (by decide), wide (equally.mpr (.inr (by decide))), apart,
    ascending (Nat.le_refl _)⟩

/-- Beyond the least width a longer key may come first. -/
example : sequential "k" 1000000 < sequential "k" 999999 := by decide

end Key

end StoreTrial
