import Mathlib.Data.List.TakeWhile
import StoreTrial.Text.Blank

/-! # Trimmed texts

A text is what is left of it when it is trimmed, with blanks around it
(`StoreTrial.Text.exists_eq_append_trim`). Blanks that are put around a text are taken off again, a
part that begins and ends with no blank stays whole, and it does not matter whether letters are put
in lower case before or after a text is trimmed.
-/

namespace StoreTrial.Text

/-- Every character of the text is a blank. -/
def AllBlank (text : List Char) : Prop := ∀ c ∈ text, isBlank c = true

instance (text : List Char) : Decidable (AllBlank text) :=
  decidable_of_iff (text.all isBlank = true) List.all_eq_true

/-- The text begins and ends with characters that are no blanks. -/
structure IsFirm (text : List Char) : Prop where
  first : text.head?.any (!isBlank ·) = true
  last : text.getLast?.any (!isBlank ·) = true

instance (text : List Char) : Decidable (IsFirm text) :=
  decidable_of_iff (text.head?.any (!isBlank ·) = true ∧ text.getLast?.any (!isBlank ·) = true)
    ⟨fun ⟨first, last⟩ => ⟨first, last⟩, fun firm => ⟨firm.first, firm.last⟩⟩

variable {text part before after : List Char}

theorem IsFirm.reverse (firm : IsFirm text) : IsFirm text.reverse :=
  ⟨by rw [List.head?_reverse]; exact firm.last, by rw [List.getLast?_reverse]; exact firm.first⟩

/-- Leading blanks end before a part that begins with none. -/
theorem IsFirm.dropWhile_append (firm : IsFirm part) (before after : List Char) :
    (before ++ (part ++ after)).dropWhile isBlank =
      before.dropWhile isBlank ++ (part ++ after) := by
  rw [List.dropWhile_append]
  split
  · rename_i gone
    rw [List.isEmpty_iff.mp gone, List.nil_append]
    cases part with
    | nil => cases firm.first
    | cons c rest =>
        have solid : ¬isBlank c = true := by simpa using firm.first
        exact List.dropWhile_cons_of_neg solid
  · rfl

/-- A part that begins and ends with no blank is whole in a trimmed text. -/
theorem IsFirm.trim_append (firm : IsFirm part) (before after : List Char) :
    trim (before ++ part ++ after) =
      before.dropWhile isBlank ++ part ++ (after.reverse.dropWhile isBlank).reverse := by
  rw [trim, List.append_assoc, firm.dropWhile_append, List.reverse_append, List.reverse_append,
    List.append_assoc, firm.reverse.dropWhile_append]
  simp only [List.reverse_append, List.reverse_reverse, List.append_assoc]

theorem IsFirm.infix_trim (firm : IsFirm part) (within : part <:+: text) : part <:+: trim text := by
  obtain ⟨before, after, rfl⟩ := within
  rw [firm.trim_append]
  exact List.infix_append _ _ _

/-- A text is the trimmed text with blanks around it. -/
theorem exists_eq_append_trim (text : List Char) :
    ∃ before after, text = before ++ trim text ++ after ∧ AllBlank before ∧ AllBlank after := by
  let rest := text.dropWhile isBlank
  refine ⟨text.takeWhile isBlank, (rest.reverse.takeWhile isBlank).reverse, ?_, ?_, ?_⟩
  · have ending : trim text ++ (rest.reverse.takeWhile isBlank).reverse = rest := by
      rw [trim, ← List.reverse_append, List.takeWhile_append_dropWhile, List.reverse_reverse]
    rw [List.append_assoc, ending, List.takeWhile_append_dropWhile]
  · exact fun c member => List.mem_takeWhile_imp member
  · exact fun c member => List.mem_takeWhile_imp (List.mem_reverse.mp member)

theorem trim_infix (text : List Char) : trim text <:+: text := by
  obtain ⟨before, after, whole, _⟩ := exists_eq_append_trim text
  exact ⟨before, after, whole.symm⟩

/-- Blanks around a text are taken off with those at its ends. -/
theorem trim_append_blanks (leading : AllBlank before) (trailing : AllBlank after)
    (text : List Char) : trim (before ++ text ++ after) = trim text := by
  rw [trim, List.append_assoc, List.dropWhile_append_of_pos leading, List.dropWhile_append]
  split
  · rename_i gone
    rw [List.dropWhile_eq_nil_iff.mpr trailing, trim, List.isEmpty_iff.mp gone]
  · rw [List.reverse_append, List.dropWhile_append_of_pos, ← trim]
    exact fun c member => trailing c (List.mem_reverse.mp member)

/-! ## Letters in lower case -/

theorem isBlank_eq_false_of_letter {c : Char} (low : 65 ≤ c.toNat) (high : c.toNat ≤ 122) :
    isBlank c = false := by
  simp only [isBlank, Bool.or_eq_false_iff, Bool.and_eq_false_iff, decide_eq_false_iff_not,
    beq_eq_false_iff_ne]
  omega

theorem isBlank_toLower (c : Char) : isBlank c.toLower = isBlank c := by
  delta Char.toLower
  split
  · rename_i upper
    have low : 65 ≤ c.toNat := UInt32.le_iff_toNat_le.mp upper.1
    have high : c.toNat ≤ 90 := UInt32.le_iff_toNat_le.mp upper.2
    -- A letter in upper case lies 32 below the same letter in lower case.
    have lower : (c.val + ('a'.val - 'A'.val)).toNat = c.toNat + 32 := by
      rw [UInt32.toNat_add]
      exact Nat.mod_eq_of_lt (by change c.toNat + 32 < _; omega)
    rw [isBlank_eq_false_of_letter low (by omega)]
    apply isBlank_eq_false_of_letter
    · change 65 ≤ (c.val + ('a'.val - 'A'.val)).toNat
      omega
    · change (c.val + ('a'.val - 'A'.val)).toNat ≤ 122
      omega
  · rfl

theorem isBlank_comp_toLower : isBlank ∘ Char.toLower = isBlank := funext isBlank_toLower

theorem trim_map_toLower (text : List Char) :
    trim (text.map Char.toLower) = (trim text).map Char.toLower := by
  simp only [trim, List.dropWhile_map, isBlank_comp_toLower, ← List.map_reverse]

/-- A text whose letters are put in lower case begins and ends with no blank exactly if it did. -/
theorem isFirm_map_toLower_iff : IsFirm (text.map Char.toLower) ↔ IsFirm text := by
  have same (c : Option Char) :
      (c.map Char.toLower).any (!isBlank ·) = c.any (!isBlank ·) := by
    cases c with
    | none => rfl
    | some c => simp [isBlank_toLower]
  constructor
  · rintro ⟨first, last⟩
    rw [List.head?_map, same] at first
    rw [List.getLast?_map, same] at last
    exact ⟨first, last⟩
  · rintro ⟨first, last⟩
    exact ⟨by rw [List.head?_map, same]; exact first, by rw [List.getLast?_map, same]; exact last⟩

end StoreTrial.Text
