import Mathlib.Algebra.Group.Nat.Defs
import StoreTrial.Proofs.SnapshotReading

/-! # Snapshot files that were changed

Every bit of the checksum is a linear function of the register that it starts from and of
the bytes it takes, and no step forgets anything: different registers stay different
(`StoreTrial.Bytes.crcShifts_inj`), and at most four bytes enter the register as one number
(`StoreTrial.Bytes.crcFold_eq_crcShifts`). A change of a saved snapshot within four bytes of
its payload, or within its checksum, is therefore always noticed
(`StoreTrial.SnapshotFile.load_of_changed_window`).
-/

namespace StoreTrial

namespace Bytes

theorem low_bit (register : UInt32) :
    (register &&& 1 == 1) = decide (register.toNat % 2 = 1) := by
  have low : (register &&& 1).toNat = register.toNat % 2 := by
    rw [UInt32.toNat_and]
    exact Nat.and_one_is_mod _
  rw [Bool.eq_iff_iff, beq_iff_eq, decide_eq_true_iff, ← UInt32.toNat_inj, low]
  rfl

theorem crcShift_of_even {register : UInt32} (even : register.toNat % 2 = 0) :
    crcShift register = register >>> 1 := by
  rw [crcShift, low_bit, if_neg (by simp [even])]

theorem crcShift_of_odd {register : UInt32} (odd : register.toNat % 2 = 1) :
    crcShift register = (register >>> 1) ^^^ crcPolynomial := by
  rw [crcShift, low_bit, if_pos (by simp [odd])]

theorem xor_xor_xor_cancel (left right mask : UInt32) :
    (left ^^^ mask) ^^^ (right ^^^ mask) = left ^^^ right := by
  calc (left ^^^ mask) ^^^ (right ^^^ mask) = (left ^^^ right) ^^^ (mask ^^^ mask) := by ac_rfl
    _ = left ^^^ right := by rw [UInt32.xor_self, UInt32.xor_zero]

/-- Shifting is linear. -/
theorem crcShift_xor (left right : UInt32) :
    crcShift (left ^^^ right) = crcShift left ^^^ crcShift right := by
  have parity := Nat.xor_mod_two_eq_one (a := left.toNat) (b := right.toNat)
  rw [← UInt32.toNat_xor] at parity
  have moved : (left ^^^ right) >>> 1 = (left >>> 1) ^^^ (right >>> 1) := UInt32.shiftRight_xor
  rcases Nat.mod_two_eq_zero_or_one left.toNat with leftBit | leftBit
  · rcases Nat.mod_two_eq_zero_or_one right.toNat with rightBit | rightBit
    · rw [crcShift_of_even leftBit, crcShift_of_even rightBit, crcShift_of_even (by omega), moved]
    · rw [crcShift_of_even leftBit, crcShift_of_odd rightBit, crcShift_of_odd (by omega), moved,
        UInt32.xor_assoc]
  · rcases Nat.mod_two_eq_zero_or_one right.toNat with rightBit | rightBit
    · rw [crcShift_of_odd leftBit, crcShift_of_even rightBit, crcShift_of_odd (by omega), moved]
      ac_rfl
    · rw [crcShift_of_odd leftBit, crcShift_of_odd rightBit, crcShift_of_even (by omega), moved,
        xor_xor_xor_cancel]

theorem crcShifts_xor (bits : Nat) (left right : UInt32) :
    crcShifts bits (left ^^^ right) = crcShifts bits left ^^^ crcShifts bits right := by
  induction bits generalizing left right with
  | zero => rfl
  | succ bits ih => rw [crcShifts, crcShift_xor, ih, crcShifts, crcShifts]

theorem toNat_shiftRight_one (register : UInt32) :
    (register >>> 1).toNat = register.toNat / 2 := by
  rw [UInt32.toNat_shiftRight]
  exact Nat.shiftRight_eq_div_pow _ 1

/-- The polynomial has the highest bit, which a moved register has not. -/
theorem eq_zero_of_crcShift {register : UInt32} (nothing : crcShift register = 0) :
    register = 0 := by
  have moved := toNat_shiftRight_one register
  rcases Nat.mod_two_eq_zero_or_one register.toNat with even | odd
  · rw [crcShift_of_even even, ← UInt32.toNat_inj, moved, UInt32.toNat_zero] at nothing
    rw [← UInt32.toNat_inj, UInt32.toNat_zero]
    omega
  · rw [crcShift_of_odd odd, UInt32.xor_eq_zero_iff, ← UInt32.toNat_inj, moved] at nothing
    have high : crcPolynomial.toNat = 3988292384 := rfl
    have bounded := register.toNat_lt
    omega

theorem eq_zero_of_crcShifts {bits : Nat} {register : UInt32}
    (nothing : crcShifts bits register = 0) : register = 0 := by
  induction bits generalizing register with
  | zero => exact nothing
  | succ bits ih => exact eq_zero_of_crcShift (ih nothing)

/-- Different registers stay different. -/
theorem crcShifts_inj {bits : Nat} {left right : UInt32} :
    crcShifts bits left = crcShifts bits right ↔ left = right := by
  constructor
  · intro same
    rw [← UInt32.xor_eq_zero_iff, ← crcShifts_xor] at same
    exact UInt32.xor_eq_zero_iff.mp (eq_zero_of_crcShifts same)
  · rintro rfl
    rfl

/-- While the lowest bits are clear the register only moves. -/
theorem toNat_crcShifts {bits : Nat} {register : UInt32}
    (clear : register.toNat % 2 ^ bits = 0) :
    (crcShifts bits register).toNat = register.toNat / 2 ^ bits := by
  induction bits generalizing register with
  | zero => exact (Nat.div_one _).symm
  | succ bits ih =>
      rw [Nat.pow_succ', Nat.mod_mul] at clear
      obtain ⟨even, above⟩ := Nat.add_eq_zero_iff.mp clear
      have moved := toNat_shiftRight_one register
      rw [crcShifts, crcShift_of_even even, ih (by rw [moved]; omega), moved, Nat.pow_succ',
        Nat.div_div_eq_div_mul]

/-- A byte in the lowest place beside a number above it. -/
theorem xor_eq_add (byte : UInt8) (above : Nat) :
    byte.toNat ^^^ (256 * above) = byte.toNat + 256 * above := by
  have bounded : byte.toNat < 2 ^ 8 := byte.toNat_lt
  apply Nat.eq_of_testBit_eq
  intro place
  rw [Nat.add_comm, show 256 = 2 ^ 8 from rfl, Nat.testBit_two_pow_mul_add _ bounded,
    Nat.testBit_xor, Nat.testBit_two_pow_mul]
  by_cases low : place < 8
  · simp [low, Nat.not_le_of_lt low]
  · have beyond : byte.toNat < 2 ^ place :=
      Nat.lt_of_lt_of_le bounded (Nat.pow_le_pow_right (by decide) (Nat.le_of_not_lt low))
    simp [low, Nat.le_of_not_lt low, Nat.testBit_lt_two_pow beyond]

theorem crcShifts_add (first second : Nat) (register : UInt32) :
    crcShifts (first + second) register = crcShifts second (crcShifts first register) := by
  induction first generalizing register with
  | zero => rw [Nat.zero_add, crcShifts]
  | succ first ih => rw [Nat.succ_add, crcShifts, ih, crcShifts]

/-- At most four bytes meet the register as one number. -/
theorem crcFold_eq_crcShifts {bytes : Bytes} (short : bytes.length ≤ 4) (register : UInt32) :
    crcFold register bytes =
      crcShifts (8 * bytes.length) (register ^^^ (littleEndianValue bytes).toUInt32) := by
  induction bytes generalizing register with
  | nil => simp [crcFold, crcShifts, littleEndianValue]
  | cons byte rest ih =>
      have bounded : littleEndianValue rest < 2 ^ 24 := by
        have below := littleEndianValue_lt rest
        have power : Nat.pow 256 rest.length ≤ Nat.pow 256 3 :=
          Nat.pow_le_pow_right (by decide) (Nat.le_of_succ_le_succ short)
        exact Nat.lt_of_lt_of_le below power
      have kept : (littleEndianValue rest).toUInt32.toNat = littleEndianValue rest :=
        Nat.mod_eq_of_lt (by omega)
      have above : (256 * littleEndianValue rest).toUInt32.toNat = 256 * littleEndianValue rest :=
        Nat.mod_eq_of_lt (by omega)
      have moved : crcShifts 8 (256 * littleEndianValue rest).toUInt32 =
          (littleEndianValue rest).toUInt32 := by
        rw [← UInt32.toNat_inj, toNat_crcShifts (by omega), above, kept]
        omega
      have number : (littleEndianValue (byte :: rest)).toUInt32 =
          byte.toUInt32 ^^^ (256 * littleEndianValue rest).toUInt32 := by
        have low := byte.toNat_lt
        have whole : (littleEndianValue (byte :: rest)).toUInt32.toNat =
            byte.toNat + 256 * littleEndianValue rest :=
          Nat.mod_eq_of_lt (by rw [littleEndianValue]; omega)
        rw [← UInt32.toNat_inj, whole, UInt32.toNat_xor, above, UInt8.toNat_toUInt32, xor_eq_add]
      calc crcFold register (byte :: rest)
          = crcFold (crcShifts 8 (register ^^^ byte.toUInt32)) rest := rfl
        _ = crcShifts (8 * rest.length) (crcShifts 8 (register ^^^ byte.toUInt32) ^^^
              crcShifts 8 (256 * littleEndianValue rest).toUInt32) := by
            rw [ih (Nat.le_of_succ_le short), moved]
        _ = crcShifts (8 + 8 * rest.length) (register ^^^
              (byte.toUInt32 ^^^ (256 * littleEndianValue rest).toUInt32)) := by
            rw [← crcShifts_xor, ← crcShifts_add, UInt32.xor_assoc]
        _ = _ := by rw [← number, List.length_cons, Nat.mul_succ, Nat.add_comm]

/-- At most four bytes of one length are told apart by the register after them. -/
theorem crcFold_window_inj {left right : Bytes} (length : left.length = right.length)
    (short : right.length ≤ 4) {register : UInt32}
    (same : crcFold register left = crcFold register right) : left = right := by
  rw [crcFold_eq_crcShifts (length ▸ short), crcFold_eq_crcShifts short, length, crcShifts_inj,
    UInt32.xor_right_inj] at same
  have bounded (bytes : Bytes) (short : bytes.length ≤ 4) :
      (littleEndianValue bytes).toUInt32.toNat = littleEndianValue bytes := by
    have below := littleEndianValue_lt bytes
    have power : Nat.pow 256 bytes.length ≤ Nat.pow 256 4 :=
      Nat.pow_le_pow_right (by decide) short
    exact Nat.mod_eq_of_lt (Nat.lt_of_lt_of_le below power)
  have numbers : littleEndianValue left = littleEndianValue right := by
    rw [← bounded left (length ▸ short), ← bounded right short, same]
  rw [← littleEndian_littleEndianValue left, numbers, length, littleEndian_littleEndianValue]

/-- What follows keeps different registers different. -/
theorem crcFold_register_inj {left right : UInt32} {bytes : Bytes}
    (same : crcFold left bytes = crcFold right bytes) : left = right := by
  induction bytes generalizing left right with
  | nil => exact same
  | cons byte rest ih =>
      have stepped : crcStep left byte = crcStep right byte := ih same
      rw [crcStep, crcStep, crcShifts_inj, UInt32.xor_left_inj] at stepped
      exact stepped

theorem crcFold_append (register : UInt32) (front back : Bytes) :
    crcFold register (front ++ back) = crcFold (crcFold register front) back :=
  List.foldl_append

/-- **The checksum shows every change within four bytes.** -/
theorem crc32_window_inj {front left right back : Bytes} (length : left.length = right.length)
    (short : right.length ≤ 4)
    (same : crc32 (front ++ left ++ back) = crc32 (front ++ right ++ back)) : left = right := by
  rw [crc32, crc32, UInt32.not_inj, crcFold_append, crcFold_append _ (front ++ right)] at same
  have met := crcFold_register_inj same
  rw [crcFold_append, crcFold_append] at met
  exact crcFold_window_inj length short met

end Bytes

namespace Snapshot

/-- A change in the checksum of a snapshot, or within four bytes of its payload, is noticed
by the checksum. -/
theorem decode_of_changed_window {payload front window changed back : Bytes}
    (split : checksummed payload = front ++ window ++ back)
    (length : changed.length = window.length) (different : changed ≠ window)
    (inside : front.length + window.length ≤ checksumWidth ∨
      checksumWidth ≤ front.length ∧ window.length ≤ 4) :
    ∃ expected actual, expected ≠ actual ∧
      decode (front ++ changed ++ back) = .error (.checksumMismatch expected actual) := by
  have width := Bytes.length_littleEndian checksumWidth (Bytes.crc32 payload).toNat
  rw [checksummed] at split
  rcases inside with inHeader | ⟨behindHeader, short⟩
  · obtain ⟨kept, header, rfl⟩ : ∃ kept,
        Bytes.littleEndian checksumWidth (Bytes.crc32 payload).toNat = front ++ window ++ kept ∧
          back = kept ++ payload := by
      rcases List.append_eq_append_iff.mp split with ⟨rest, outer, inner⟩ | ⟨rest, outer, inner⟩
      · have lengths := congrArg List.length outer
        simp only [List.length_append, width] at lengths
        obtain rfl : rest = [] := List.length_eq_zero_iff.mp (by omega)
        exact ⟨[], by simpa using outer.symm, by simpa using inner.symm⟩
      · exact ⟨rest, outer, inner⟩
    have lengths := congrArg List.length header
    simp only [List.length_append, width] at lengths
    have width : (front ++ changed ++ kept).length = checksumWidth := by
      simp only [List.length_append]
      omega
    obtain ⟨expected, forged⟩ := exists_checksum width
    have apart : expected ≠ Bytes.crc32 payload := by
      rintro rfl
      rw [header, List.append_left_inj, List.append_right_inj] at forged
      exact different forged
    refine ⟨expected, Bytes.crc32 payload, apart, ?_⟩
    rw [← List.append_assoc, forged, decode_checksum_append, if_neg apart]
  · obtain ⟨before, rfl, rfl⟩ : ∃ before,
        front = Bytes.littleEndian checksumWidth (Bytes.crc32 payload).toNat ++ before ∧
          payload = before ++ window ++ back := by
      rw [List.append_assoc] at split
      rcases List.append_eq_append_iff.mp split with ⟨rest, outer, inner⟩ | ⟨rest, outer, inner⟩
      · exact ⟨rest, outer, by rw [inner, List.append_assoc]⟩
      · have lengths := congrArg List.length outer
        simp only [List.length_append, width] at lengths
        obtain rfl : rest = [] := List.length_eq_zero_iff.mp (by omega)
        exact ⟨[], by simpa using outer.symm, by simpa using inner.symm⟩
    have apart : Bytes.crc32 (before ++ window ++ back) ≠ Bytes.crc32 (before ++ changed ++ back) :=
      fun same => different (Bytes.crc32_window_inj length.symm (length ▸ short) same).symm
    refine ⟨_, _, apart, ?_⟩
    rw [List.append_assoc _ before, List.append_assoc _ (before ++ changed),
      decode_checksum_append, if_neg apart]

end Snapshot

namespace SnapshotFile

open Snapshot (checksumWidth)

/-- Loading is refused because the checksum is not that of the payload. -/
def FailsByChecksum (location : String) (disk : Disk) : Prop :=
  ∃ expected actual, expected ≠ actual ∧
    load location disk = .error (.serialization (.checksumMismatch expected actual))

/-- **A changed snapshot file is refused.** Let entries be saved, and let a location be left
with that file after a change that keeps its length, either within the checksum or within
four bytes of the payload. Loading it fails because the checksum is not that of the payload.
So it does after a change of any one byte. -/
theorem load_of_changed_window {location : String} {entries : List (Bytes × Bytes)}
    {start kept : Disk} (saved : saveEntries location entries start = (.ok (), kept))
    {file : Bytes} (written : kept.readFile (path location) = .ok file) (disk : Disk) :
    (∀ front window changed back, file = front ++ window ++ back →
      changed.length = window.length → changed ≠ window →
      (front.length + window.length ≤ checksumWidth ∨
        checksumWidth ≤ front.length ∧ window.length ≤ 4) →
      disk.readFile (path location) = .ok (front ++ changed ++ back) →
      FailsByChecksum location disk) ∧
    ∀ position byte, (inside : position < file.length) → file[position] ≠ byte →
      disk.readFile (path location) = .ok (file.set position byte) →
      FailsByChecksum location disk := by
  have windows : ∀ front window changed back, file = front ++ window ++ back →
      changed.length = window.length → changed ≠ window →
      (front.length + window.length ≤ checksumWidth ∨
        checksumWidth ≤ front.length ∧ window.length ≤ 4) →
      disk.readFile (path location) = .ok (front ++ changed ++ back) →
      FailsByChecksum location disk := by
    intro front window changed back split length different inside read
    have image : file = Snapshot.image entries :=
      Except.ok.inj (written.symm.trans (saveEntries_eq_ok saved).2)
    obtain ⟨expected, actual, apart, failed⟩ :=
      Snapshot.decode_of_changed_window (image.symm.trans split) length different inside
    exact ⟨expected, actual, apart, by rw [load_of_readFile read, failed]⟩
  refine ⟨windows, ?_⟩
  intro position byte inside different read
  have split : file = file.take position ++ [file[position]] ++ file.drop (position + 1) := by
    simp
  rw [List.set_eq_take_append_cons_drop, if_pos inside, ← List.singleton_append,
    ← List.append_assoc] at read
  refine windows _ [file[position]] [byte] _ split rfl (by simpa using Ne.symm different) ?_ read
  rw [List.length_take_of_le (Nat.le_of_lt inside), List.length_singleton]
  omega

/-- Four bytes of the payload, or the last one alone, take other values. -/
theorem load_of_changed_window_in_payload :
    let start := (Disk.empty.makeDirectories (.ofText "db")).2
    let kept := (saveEntries "db" [([1], [2])] start).2
    let file := Snapshot.image [([1], [2])]
    let front := file.take 19
    let back := file.drop 23
    let swapped := kept.set ["DATA_SNAPSHOT", "db"] (.file (front ++ [0, 2, 1, 0] ++ back))
    let flipped := kept.set ["DATA_SNAPSHOT", "db"] (.file (file.set 29 253))
    (saveEntries "db" [([1], [2])] start = (.ok (), kept) ∧
      kept.readFile (path "db") = .ok file ∧
      swapped.readFile (path "db") = .ok (front ++ [0, 2, 1, 0] ++ back) ∧
      flipped.readFile (path "db") = .ok (file.set 29 253)) ∧
    FailsByChecksum "db" swapped ∧ FailsByChecksum "db" flipped := by
  intro start kept file front back swapped flipped
  have saved : saveEntries "db" [([1], [2])] start = (.ok (), kept) := by decide +kernel
  have written : kept.readFile (path "db") = .ok file := by decide +kernel
  have swappedRead : swapped.readFile (path "db") = .ok (front ++ [0, 2, 1, 0] ++ back) := by
    decide +kernel
  have flippedRead : flipped.readFile (path "db") = .ok (file.set 29 253) := by decide +kernel
  have split : file = front ++ [0, 1, 1, 0] ++ back := by decide +kernel
  refine ⟨⟨saved, written, swappedRead, flippedRead⟩, ?_, ?_⟩
  · exact (load_of_changed_window saved written swapped).1 front [0, 1, 1, 0] [0, 2, 1, 0] back
      split rfl (by decide) (.inr (by decide +kernel)) swappedRead
  · exact (load_of_changed_window saved written flipped).2 29 253 (by decide +kernel)
      (by decide +kernel) flippedRead

end SnapshotFile

end StoreTrial
