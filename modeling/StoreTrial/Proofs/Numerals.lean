import Mathlib.Data.List.TakeWhile
import StoreTrial.Text.Numeral

/-! # The numbers that texts write

A text writes a number if it is digits after at most one plus sign. The reading of bounded numbers
accepts exactly the texts that write one within the bound, with any number of zeros in front
(`StoreTrial.Text.readNumber_eq_ok_iff`), and of every other text it tells what is wrong
(`StoreTrial.Text.readNumber_eq_error_iff`).
-/

namespace StoreTrial.Text

variable {limit start number : Nat} {text digits : List Char} {fault : NumeralFault}

/-- The text without the plus sign in front of it, if there is one. -/
def withoutPlus : List Char → List Char
  | '+' :: rest => rest
  | text => text

/-- The text writes the number with digits, after at most one plus sign. -/
structure Writes (text : List Char) (number : Nat) : Prop where
  written : withoutPlus text ≠ []
  digits : ∀ c ∈ withoutPlus text, c.isDigit = true
  value : Nat.ofDigitChars 10 (withoutPlus text) 0 = number

instance (text : List Char) (number : Nat) : Decidable (Writes text number) :=
  decidable_of_iff
    (withoutPlus text ≠ [] ∧ (withoutPlus text).all Char.isDigit = true ∧
      Nat.ofDigitChars 10 (withoutPlus text) 0 = number)
    ⟨fun ⟨written, digits, value⟩ => ⟨written, List.all_eq_true.mp digits, value⟩,
      fun writes => ⟨writes.written, List.all_eq_true.mpr writes.digits, writes.value⟩⟩

/-- A text writes one number at most. -/
theorem Writes.unique {other : Nat} (first : Writes text number) (second : Writes text other) :
    number = other :=
  first.value.symm.trans second.value

/-- What is wrong with a text that writes no number within the limit. -/
def numeralFault (limit : Nat) (text : List Char) : NumeralFault :=
  if text = [] then .empty
  else if limit < Nat.ofDigitChars 10 ((withoutPlus text).takeWhile Char.isDigit) 0 then .tooLarge
  else .invalidDigit

/-- More digits never write a smaller number. -/
theorem le_ofDigitChars (digits : List Char) (start : Nat) :
    start ≤ Nat.ofDigitChars 10 digits start := by
  induction digits generalizing start with
  | nil => exact Nat.le_refl start
  | cons c digits ih =>
      rw [Nat.ofDigitChars_cons]
      exact Nat.le_trans (by omega) (ih _)

/-- Reading ends at the first character that is no digit, unless the digits before it already go
past the limit. -/
theorem readDigits_eq (within : start ≤ limit) (text : List Char) :
    readDigits limit start text =
      if limit < Nat.ofDigitChars 10 (text.takeWhile Char.isDigit) start then .error .tooLarge
      else if text.all Char.isDigit then .ok (Nat.ofDigitChars 10 text start)
      else .error .invalidDigit := by
  induction text generalizing start with
  | nil => simp [readDigits, Nat.not_lt.mpr within]
  | cons c rest ih =>
      rw [readDigits]
      split
      · rename_i digit
        simp only [List.takeWhile_cons_of_pos digit, Nat.ofDigitChars_cons, List.all_cons,
          digit, Bool.true_and, Nat.mul_comm 10 start]
        split
        · rename_i past
          rw [if_pos (Nat.lt_of_lt_of_le past (le_ofDigitChars _ _))]
        · rename_i below
          exact ih (Nat.not_lt.mp below)
      · rename_i strange
        simp [strange, Nat.not_lt.mpr within]

theorem withoutPlus_of_ne {c : Char} (unsigned : c ≠ '+') (rest : List Char) :
    withoutPlus (c :: rest) = c :: rest := by
  rw [withoutPlus]
  exact fun _ same => unsigned (List.cons.inj same).1

theorem readNumber_eq (limit : Nat) (text : List Char) :
    readNumber limit text =
      if withoutPlus text = [] then .error (numeralFault limit text)
      else readDigits limit 0 (withoutPlus text) := by
  cases text with
  | nil => rfl
  | cons c rest =>
      by_cases signed : c = '+'
      · subst signed
        cases rest with
        | nil => simp [readNumber, withoutPlus, numeralFault]
        | cons d rest => rfl
      · rw [withoutPlus_of_ne signed, if_neg (List.cons_ne_nil c rest), readNumber]
        · exact List.cons_ne_nil c rest
        · exact fun same => signed (List.cons.inj same).1
        · exact fun _ same => signed (List.cons.inj same).1

/-- A text writes a number within the limit exactly if it is read as that number. -/
theorem readNumber_eq_ok_iff :
    readNumber limit text = .ok number ↔ Writes text number ∧ number ≤ limit := by
  rw [readNumber_eq]
  split
  · rename_i bare
    simp only [reduceCtorEq, false_iff]
    exact fun ⟨writes, _⟩ => writes.written bare
  · rename_i written
    rw [readDigits_eq (Nat.zero_le limit)]
    constructor
    · intro read
      split at read
      · cases read
      rename_i below
      split at read
      · rename_i only
        have digits := List.all_eq_true.mp only
        rw [List.takeWhile_eq_self_iff.mpr digits] at below
        cases read
        exact ⟨⟨written, digits, rfl⟩, Nat.not_lt.mp below⟩
      · cases read
    · rintro ⟨⟨_, digits, rfl⟩, within⟩
      rw [List.takeWhile_eq_self_iff.mpr digits, if_neg (Nat.not_lt.mpr within),
        if_pos (List.all_eq_true.mpr digits)]

example : Writes "+0042".toList 42 ∧ ¬Writes "++42".toList 42 ∧ ¬Writes "-0".toList 0 := by decide

/-- A text that is not read has the fault that is reported. -/
theorem eq_numeralFault_of_readNumber (unread : readNumber limit text = .error fault) :
    fault = numeralFault limit text := by
  rw [readNumber_eq] at unread
  split at unread
  · exact (Except.error.inj unread).symm
  · rename_i written
    have filled : text ≠ [] := fun empty => written (by rw [empty]; rfl)
    rw [readDigits_eq (Nat.zero_le limit)] at unread
    rw [numeralFault, if_neg filled]
    split at unread
    · rename_i past
      rw [if_pos past]
      exact (Except.error.inj unread).symm
    · rename_i below
      rw [if_neg below]
      split at unread
      · cases unread
      · exact (Except.error.inj unread).symm

/-- A text that writes no number within the limit is refused for what is wrong with it. -/
theorem readNumber_eq_error_iff :
    readNumber limit text = .error fault ↔
      (∀ number, Writes text number → limit < number) ∧ fault = numeralFault limit text := by
  constructor
  · intro unread
    refine ⟨fun number writes => Nat.not_le.mp fun within => ?_,
      eq_numeralFault_of_readNumber unread⟩
    cases unread.symm.trans (readNumber_eq_ok_iff.mpr ⟨writes, within⟩)
  · rintro ⟨unwritten, rfl⟩
    cases outcome : readNumber limit text with
    | ok number =>
        obtain ⟨writes, within⟩ := readNumber_eq_ok_iff.mp outcome
        exact absurd (unwritten number writes) (Nat.not_lt.mpr within)
    | error fault => rw [eq_numeralFault_of_readNumber outcome]

end StoreTrial.Text
