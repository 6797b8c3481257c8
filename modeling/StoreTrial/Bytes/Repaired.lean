import StoreTrial.Bytes.Basic

/-! # Repaired text

Byte strings shown as text. Well-formed UTF-8 is kept, and each longest prefix
of a character that is not completed becomes one replacement character.
-/

namespace StoreTrial.Bytes

/-- How a character of several bytes begins: how many bytes follow the lead, the
bounds of the first of them, and the bits of the lead. -/
structure Lead where
  following : Nat
  low : UInt8
  high : UInt8
  bits : Nat

/-- What may follow a lead byte of a character of several bytes. -/
def lead? (byte : UInt8) : Option Lead :=
  if byte < 0xc2 then none
  else if byte < 0xe0 then some ⟨1, 0x80, 0xbf, byte.toNat - 0xc0⟩
  else if byte == 0xe0 then some ⟨2, 0xa0, 0xbf, 0⟩
  else if byte == 0xed then some ⟨2, 0x80, 0x9f, 0xd⟩
  else if byte < 0xf0 then some ⟨2, 0x80, 0xbf, byte.toNat - 0xe0⟩
  else if byte == 0xf0 then some ⟨3, 0x90, 0xbf, 0⟩
  else if byte < 0xf4 then some ⟨3, 0x80, 0xbf, byte.toNat - 0xf0⟩
  else if byte == 0xf4 then some ⟨3, 0x80, 0x8f, 4⟩
  else none

/-- Reads the bytes that follow a lead. Gives the code point when all of them
are there, and in any case what is left after the last one that fits. -/
def readFollowing : (following : Nat) → (low high : UInt8) → (bits : Nat) → Bytes →
    Option Nat × Bytes
  | 0, _, _, bits, rest => (some bits, rest)
  | _ + 1, _, _, _, [] => (none, [])
  | following + 1, low, high, bits, byte :: rest =>
      if low ≤ byte && byte ≤ high then
        readFollowing following 0x80 0xbf (bits * 64 + (byte.toNat - 0x80)) rest
      else (none, byte :: rest)

theorem length_readFollowing_le (following : Nat) (low high : UInt8) (bits : Nat) (bytes : Bytes) :
    (readFollowing following low high bits bytes).2.length ≤ bytes.length := by
  induction following generalizing low high bits bytes with
  | zero => simp [readFollowing]
  | succ following ih =>
      cases bytes with
      | nil => simp [readFollowing]
      | cons byte rest =>
          rw [readFollowing]
          split
          · exact Nat.le_trans (ih _ _ _ _) (Nat.le_succ _)
          · exact Nat.le_refl _

/-- Stands for bytes that are no character. -/
def replacement : Char := Char.ofNat 0xfffd

/-- Reads the first character of a byte string after its lead byte, and what is
left after it. -/
def readChar (byte : UInt8) (rest : Bytes) : Char × Bytes :=
  if byte < 0x80 then (Char.ofNat byte.toNat, rest)
  else
    match lead? byte with
    | none => (replacement, rest)
    | some lead =>
        let (code, left) := readFollowing lead.following lead.low lead.high lead.bits rest
        ((code.map Char.ofNat).getD replacement, left)

theorem length_readChar_le (byte : UInt8) (rest : Bytes) :
    (readChar byte rest).2.length ≤ rest.length := by
  unfold readChar
  split
  · exact Nat.le_refl _
  · split
    · exact Nat.le_refl _
    · exact length_readFollowing_le _ _ _ _ _

/-- The characters of a byte string put behind those read before, which are held
in reverse. -/
def repairOnto (before : List Char) : Bytes → List Char
  | [] => before.reverse
  | byte :: rest => repairOnto ((readChar byte rest).1 :: before) (readChar byte rest).2
  termination_by bytes => bytes.length
  decreasing_by exact Nat.lt_succ_of_le (length_readChar_le byte rest)

/-- The text of a byte string. -/
def repaired (bytes : Bytes) : String := String.ofList (repairOnto [] bytes)

end StoreTrial.Bytes
