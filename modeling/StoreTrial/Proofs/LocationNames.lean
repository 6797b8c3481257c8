import StoreTrial.Lease.Location

/-! # Names of locations

Nothing in the name of a location is escaped, and its time has no fixed width. The name still tells
what it was made of (`StoreTrial.Location.name_inj`): its suffix has a fixed length, and there is no
dash among the digits of the time, so the last dash in front of them is the one behind the stem.
-/

namespace StoreTrial

namespace Bytes

/-- The digits of hexadecimal texts. -/
def hexDigits : List Char := "0123456789abcdef".toList

theorem digitChar_mem_hexDigits : ∀ digit < 16, Nat.digitChar digit ∈ hexDigits := by
  decide

theorem digitChar_inj :
    ∀ left < 16, ∀ right < 16, Nat.digitChar left = Nat.digitChar right → left = right := by
  decide

theorem mem_hexDigits_of_mem_hexByte {byte : UInt8} {c : Char} (member : c ∈ hexByte byte) :
    c ∈ hexDigits := by
  have bounded := byte.toNat_lt
  simp only [hexByte, List.mem_cons, List.not_mem_nil, or_false] at member
  rcases member with rfl | rfl
  · exact digitChar_mem_hexDigits _ (by omega)
  · exact digitChar_mem_hexDigits _ (by omega)

theorem hexByte_inj {left right : UInt8} : hexByte left = hexByte right ↔ left = right := by
  constructor
  · intro same
    have bounded := left.toNat_lt
    have bounded' := right.toNat_lt
    obtain ⟨high, rest⟩ := List.cons.inj same
    obtain ⟨low, -⟩ := List.cons.inj rest
    have sameHigh := digitChar_inj _ (by omega) _ (by omega) high
    have sameLow := digitChar_inj _ (by omega) _ (by omega) low
    exact UInt8.toNat_inj.mp (by omega)
  · rintro rfl
    rfl

theorem toList_hex (bytes : Bytes) : (hex bytes).toList = bytes.flatMap hexByte :=
  String.toList_ofList

theorem mem_hexDigits_of_mem_hex {bytes : Bytes} {c : Char} (member : c ∈ (hex bytes).toList) :
    c ∈ hexDigits := by
  rw [toList_hex] at member
  obtain ⟨byte, _, digit⟩ := List.mem_flatMap.mp member
  exact mem_hexDigits_of_mem_hexByte digit

/-- Every byte has two digits. -/
theorem length_hex (bytes : Bytes) : (hex bytes).toList.length = 2 * bytes.length := by
  rw [toList_hex]
  induction bytes with
  | nil => rfl
  | cons byte rest ih =>
      rw [List.flatMap_cons, List.length_append, ih, List.length_cons, hexByte]
      simp only [List.length_cons, List.length_nil]
      omega

/-- A hexadecimal text tells its bytes. -/
theorem hex_inj {left right : Bytes} : hex left = hex right ↔ left = right := by
  constructor
  · intro same
    rw [← String.toList_inj, toList_hex, toList_hex] at same
    induction left generalizing right with
    | nil =>
        cases right with
        | nil => rfl
        | cons other others => cases same
    | cons byte rest ih =>
        cases right with
        | nil => cases same
        | cons other others =>
            rw [List.flatMap_cons, List.flatMap_cons] at same
            obtain ⟨first, later⟩ := List.append_inj same rfl
            rw [hexByte_inj.mp first, ih later]
  · rintro rfl
    rfl

end Bytes

/-- Settings are accepted if the names have a beginning, and no separator in it. -/
theorem Settings.validate_eq_ok_iff {settings : Settings} :
    settings.validate = .ok () ↔ settings.stem ≠ "" ∧ '/' ∉ settings.stem.toList := by
  rw [validate]
  split
  · rename_i empty
    simp [eq_of_beq empty]
  · rename_i filled
    split
    · rename_i separated
      simpa using fun _ => separated
    · rename_i whole
      exact iff_of_true rfl ⟨by simpa using filled, by simpa using whole⟩

namespace Location

theorem length_hex_suffix (suffix : Filled suffixSize) :
    (Bytes.hex suffix.val).toList.length = 16 := by
  rw [Bytes.length_hex, suffix.property]
  rfl

/-- The characters of a name, with the last dash in front of the suffix apart. -/
theorem toList_name (stem : String) (nanos : Nat) (suffix : Filled suffixSize) :
    (name stem nanos suffix).toList =
      (stem.toList ++ '-' :: Nat.toDigits 10 nanos) ++ '-' :: (Bytes.hex suffix.val).toList := by
  have dash : "-".toList = ['-'] := rfl
  have time : (toString nanos).toList = Nat.toDigits 10 nanos := Nat.toList_repr
  simp only [name, String.toList_append, dash, time, List.append_assoc, List.cons_append,
    List.nil_append]

theorem dash_notMem_toDigits (number : Nat) : '-' ∉ Nat.toDigits 10 number := by
  intro member
  exact absurd (Nat.isDigit_of_mem_toDigits (by decide) (by decide) member) (by decide)

/-- A text without a dash is told from what follows the first dash. -/
theorem part_inj {first second rest others : List Char} (unbroken : '-' ∉ first)
    (undivided : '-' ∉ second) (same : first ++ '-' :: rest = second ++ '-' :: others) :
    first = second ∧ rest = others := by
  induction first generalizing second with
  | nil =>
      cases second with
      | nil => exact ⟨rfl, (List.cons.inj same).2⟩
      | cons c second =>
          exact absurd ((List.cons.inj same).1 ▸ List.mem_cons_self) undivided
  | cons c first ih =>
      cases second with
      | nil => exact absurd ((List.cons.inj same).1 ▸ List.mem_cons_self) unbroken
      | cons d second =>
          obtain ⟨rfl, later⟩ := List.cons.inj same
          obtain ⟨rfl, rfl⟩ := ih (fun member => unbroken (List.mem_cons_of_mem _ member))
            (fun member => undivided (List.mem_cons_of_mem _ member)) later
          exact ⟨rfl, rfl⟩

/-- A stem and a time are told from each other by the last dash. -/
theorem stem_time_inj {stem other : List Char} {nanos time : Nat}
    (same : stem ++ '-' :: Nat.toDigits 10 nanos = other ++ '-' :: Nat.toDigits 10 time) :
    stem = other ∧ nanos = time := by
  have reversed := congrArg List.reverse same
  simp only [List.reverse_append, List.reverse_cons, List.append_assoc, List.singleton_append]
    at reversed
  have unbroken : ∀ number, '-' ∉ (Nat.toDigits 10 number).reverse := fun number member =>
    dash_notMem_toDigits number (List.mem_reverse.mp member)
  obtain ⟨digits, stems⟩ := part_inj (unbroken nanos) (unbroken time) reversed
  have times := congrArg (Nat.ofDigitChars 10 · 0) (List.reverse_inj.mp digits)
  simp only [Nat.ofDigitChars_ten_toDigits] at times
  exact ⟨List.reverse_inj.mp stems, times⟩

/-- The name of a location tells its stem, its time and its suffix, whatever dashes and digits the
stem ends in. -/
theorem name_inj {stem other : String} {nanos time : Nat} {suffix ending : Filled suffixSize} :
    name stem nanos suffix = name other time ending ↔
      stem = other ∧ nanos = time ∧ suffix = ending := by
  constructor
  · intro same
    have chars := congrArg String.toList same
    rw [toList_name, toList_name] at chars
    -- Both suffixes have sixteen digits, so the names part at the same place from their ends.
    obtain ⟨front, back⟩ := List.append_inj' chars
      (by simp only [List.length_cons, length_hex_suffix])
    obtain ⟨stems, times⟩ := stem_time_inj front
    have suffixes := Bytes.hex_inj.mp (String.toList_inj.mp (List.cons.inj back).2)
    exact ⟨String.toList_inj.mp stems, times, Subtype.ext suffixes⟩
  · rintro ⟨rfl, rfl, rfl⟩
    rfl

end Location

end StoreTrial
