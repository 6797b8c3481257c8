import StoreTrial.Bytes.Basic

/-! # The checksum of a byte string

The cyclic redundancy check of 32 bits with the reflected polynomial
`edb88320`, with all bits set before the first byte and inverted after the last.
-/

namespace StoreTrial.Bytes

/-- The reflected generator polynomial. -/
def crcPolynomial : UInt32 := 0xedb88320

/-- Divides by the generator for one bit. -/
def crcShift (register : UInt32) : UInt32 :=
  if register &&& 1 == 1 then (register >>> 1) ^^^ crcPolynomial else register >>> 1

/-- Divides by the generator for a number of bits. -/
def crcShifts : (bits : Nat) → UInt32 → UInt32
  | 0, register => register
  | bits + 1, register => crcShifts bits (crcShift register)

/-- Takes one byte into the register. -/
def crcStep (register : UInt32) (byte : UInt8) : UInt32 :=
  crcShifts 8 (register ^^^ byte.toUInt32)

/-- Takes a byte string into the register. -/
def crcFold (register : UInt32) (bytes : Bytes) : UInt32 := bytes.foldl crcStep register

/-- The checksum of a byte string. -/
def crc32 (bytes : Bytes) : UInt32 := ~~~ crcFold 0xffffffff bytes

/-- The check value of this kind of checksum: that of the nine digits. -/
example : crc32 [49, 50, 51, 52, 53, 54, 55, 56, 57] = 0xcbf43926 := by decide +kernel

/-- The eight hexadecimal digits of a checksum. -/
def hexChecksum (checksum : UInt32) : String :=
  hex (littleEndian 4 checksum.toNat).reverse

end StoreTrial.Bytes
