import Mathlib.Data.List.Nodup
import StoreTrial.Payload.Key

/-! # Keys of different numbers

A number can be read back from its digits, whatever the width they were filled up to, so keys
of one kind are different when their numbers are (`StoreTrial.Key.sequential_inj`).
-/

namespace StoreTrial

theorem Text.isDigit_of_mem_padded {width number : Nat} {c : Char}
    (member : c ∈ padded width number) : c.isDigit = true := by
  rcases List.mem_append.mp member with filling | digit
  · rw [List.eq_of_mem_replicate filling]
    rfl
  · exact Nat.isDigit_of_mem_toDigits (by decide) (by decide) digit

/-- Zeros in front do not change the number. -/
theorem Text.ofDigitChars_padded (width number : Nat) :
    Nat.ofDigitChars 10 (padded width number) 0 = number := by
  rw [padded, Nat.ofDigitChars_append, Nat.ofDigitChars_replicate_zero, Nat.mul_zero,
    Nat.ofDigitChars_ten_toDigits]

/-- The bytes of digits are the digits. -/
theorem Bytes.map_ofNat_ofChars {chars : List Char} (digits : ∀ c ∈ chars, c.isDigit = true) :
    (ofChars chars).map (fun byte => Char.ofNat byte.toNat) = chars := by
  have back (c : Char) (digit : c.isDigit = true) : Char.ofNat c.toNat.toUInt8.toNat = c := by
    have small : c.toNat ≤ 57 := (Char.isDigit_iff_toNat.mp digit).2
    have kept : c.toNat.toUInt8.toNat = c.toNat := Nat.mod_eq_of_lt (by omega)
    rw [kept, Char.ofNat_toNat]
  calc (ofChars chars).map (fun byte => Char.ofNat byte.toNat)
      = chars.map (fun c => Char.ofNat c.toNat.toUInt8.toNat) := List.map_map
    _ = chars.map id := List.map_congr_left fun c member => back c (digits c member)
    _ = chars := List.map_id chars

namespace Key

theorem digits_inj {width left right : Nat} :
    digits width left = digits width right ↔ left = right := by
  constructor
  · intro same
    have chars := congrArg (List.map fun byte : UInt8 => Char.ofNat byte.toNat) same
    rw [digits, digits, Bytes.map_ofNat_ofChars fun _ => Text.isDigit_of_mem_padded,
      Bytes.map_ofNat_ofChars fun _ => Text.isDigit_of_mem_padded] at chars
    rw [← Text.ofDigitChars_padded width left, chars, Text.ofDigitChars_padded]
  · rintro rfl
    rfl

theorem sequential_inj {stem : String} {left right : Nat} :
    sequential stem left = sequential stem right ↔ left = right := by
  rw [sequential, sequential, List.append_right_inj, digits_inj]

theorem length_sequentialKeys (stem : String) (count : Nat) :
    (sequentialKeys stem count).length = count := by
  rw [sequentialKeys, List.length_map, List.length_range]

theorem nodup_sequentialKeys (stem : String) (count : Nat) : (sequentialKeys stem count).Nodup :=
  List.nodup_range.map fun _ _ => sequential_inj.mp

theorem insertion_inj {left right : Nat} : insertion left = insertion right ↔ left = right := by
  rw [insertion, insertion, List.append_right_inj, digits_inj]

end Key

end StoreTrial
