/-! # Bytes

Byte strings as lists, their hexadecimal text, the bytes of a text, and numbers
as little-endian byte strings of a given width.
-/

namespace StoreTrial

/-- A byte string: a key, a value, or the content of a file. -/
abbrev Bytes := List UInt8

namespace Bytes

/-- The bytes of a text in UTF-8. -/
def ofText (text : String) : Bytes := text.toUTF8.data.toList

/-- The characters with these bytes as code points; used for ASCII. -/
def ofChars (chars : List Char) : Bytes := chars.map fun c => c.toNat.toUInt8

/-- The two lower-case hexadecimal digits of a byte. -/
def hexByte (byte : UInt8) : List Char :=
  [Nat.digitChar (byte.toNat / 16), Nat.digitChar (byte.toNat % 16)]

/-- The lower-case hexadecimal text of a byte string. -/
def hex (bytes : Bytes) : String := String.ofList (bytes.flatMap hexByte)

/-- The lowest `width` bytes of a number, the lowest first. -/
def littleEndian : (width number : Nat) → Bytes
  | 0, _ => []
  | width + 1, number => (number % 256).toUInt8 :: littleEndian width (number / 256)

/-- The number whose bytes these are, the lowest first. -/
def littleEndianValue : Bytes → Nat
  | [] => 0
  | byte :: rest => byte.toNat + 256 * littleEndianValue rest

@[simp]
theorem length_littleEndian (width number : Nat) : (littleEndian width number).length = width := by
  induction width generalizing number with
  | zero => rfl
  | succ width ih => simp [littleEndian, ih]

/-- Writing a number and reading it back keeps its lowest bytes. -/
theorem littleEndianValue_littleEndian (width number : Nat) :
    littleEndianValue (littleEndian width number) = number % Nat.pow 256 width := by
  induction width generalizing number with
  | zero => exact (Nat.mod_one number).symm
  | succ width ih =>
      have low : (number % 256).toUInt8.toNat = number % 256 := by
        simp [Nat.toUInt8]
      have next : Nat.pow 256 (width + 1) = 256 * Nat.pow 256 width := Nat.mul_comm _ _
      rw [littleEndian, littleEndianValue, ih, low, next, Nat.mod_mul]

/-- Reading a number and writing it in the same width keeps the bytes. -/
theorem littleEndian_littleEndianValue (bytes : Bytes) :
    littleEndian bytes.length (littleEndianValue bytes) = bytes := by
  induction bytes with
  | nil => rfl
  | cons byte rest ih =>
      have bounded := byte.toNat_lt
      have low : (byte.toNat + 256 * littleEndianValue rest) % 256 = byte.toNat := by omega
      have high : (byte.toNat + 256 * littleEndianValue rest) / 256 = littleEndianValue rest := by
        omega
      rw [List.length_cons, littleEndian, littleEndianValue, low, high, ih]
      simp [Nat.toUInt8]

theorem littleEndianValue_lt (bytes : Bytes) :
    littleEndianValue bytes < Nat.pow 256 bytes.length := by
  induction bytes with
  | nil => exact Nat.one_pos
  | cons byte rest ih =>
      have bounded := byte.toNat_lt
      have next : Nat.pow 256 (rest.length + 1) = 256 * Nat.pow 256 rest.length := Nat.mul_comm _ _
      rw [littleEndianValue, List.length_cons, next]
      omega

end Bytes

end StoreTrial
