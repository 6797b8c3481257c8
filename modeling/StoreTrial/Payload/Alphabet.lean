import StoreTrial.Bytes.Basic

/-! # Alphabets

The characters that generated keys and values are made of. A number picks the
letter at its remainder by the size of the alphabet, so every byte picks one.
-/

namespace StoreTrial

/-- A non-empty list of ASCII characters. -/
structure Alphabet where
  letters : Array UInt8
  nonempty : 0 < letters.size

namespace Alphabet

/-- The characters from a first one on, as bytes. -/
def span (first : Char) (count : Nat) : Bytes :=
  (List.range count).map fun index => (first.toNat + index).toUInt8

/-- The small letters, the capital letters and the digits. -/
def alphanumeric : Bytes := span 'a' 26 ++ span 'A' 26 ++ span '0' 10

/-- The signs that values may contain besides letters and digits. -/
def signs : Bytes :=
  Bytes.ofChars ['!', '@', '#', '$', '%', '^', '&', '*', '(', ')', '-', '_', '=', '+']

/-- The letters of keys. -/
def key : Alphabet where
  letters := alphanumeric.toArray
  nonempty := by decide

/-- The letters of values. -/
def value : Alphabet where
  letters := (alphanumeric ++ signs).toArray
  nonempty := by decide

/-- The number of letters. -/
def size (alphabet : Alphabet) : Nat := alphabet.letters.size

/-- The letters as a text. -/
def text (alphabet : Alphabet) : Bytes := alphabet.letters.toList

/-- The letter a number picks. -/
def letter (alphabet : Alphabet) (number : Nat) : UInt8 :=
  getElem alphabet.letters (number % alphabet.letters.size) (Nat.mod_lt number alphabet.nonempty)

/-- The letters that the bytes of a string pick. -/
def spell (alphabet : Alphabet) (bytes : Bytes) : Bytes :=
  bytes.map fun byte => alphabet.letter byte.toNat

/-- The letters from a position of the repeated alphabet on. Positions are numbers
of 64 bits and begin again at zero. -/
def run (alphabet : Alphabet) (start : UInt64) (length : Nat) : Bytes :=
  (List.range length).map fun index => alphabet.letter (start + index.toUInt64).toNat

@[simp]
theorem length_spell (alphabet : Alphabet) (bytes : Bytes) :
    (alphabet.spell bytes).length = bytes.length := by
  simp [spell]

@[simp]
theorem length_run (alphabet : Alphabet) (start : UInt64) (length : Nat) :
    (alphabet.run start length).length = length := by
  simp [run]

/-- Every letter that a number picks belongs to the alphabet. -/
theorem letter_mem_text (alphabet : Alphabet) (number : Nat) :
    alphabet.letter number ∈ alphabet.text := by
  simp [letter, text]

end Alphabet

end StoreTrial
