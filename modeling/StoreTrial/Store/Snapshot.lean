import StoreTrial.Failure.Basic
import StoreTrial.Store.Basic

/-! # Snapshots of stores

A store as one byte string: the checksum of the body, then the body, which is
the number of entries and each entry as two fields with their lengths in front.
Bytes after the last entry are ignored, and of two entries with one key the later
counts.
-/

namespace StoreTrial.Snapshot

/-- The width of a count or a length. -/
def lengthWidth : Nat := 8

/-- The width of the checksum. -/
def checksumWidth : Nat := 4

/-- A byte string with its length in front. -/
def field (bytes : Bytes) : Bytes := Bytes.littleEndian lengthWidth bytes.length ++ bytes

/-- An entry as two fields. -/
def entryFields (entry : Bytes × Bytes) : Bytes := field entry.1 ++ field entry.2

/-- The number of entries and the entries in the given order. -/
def body (entries : List (Bytes × Bytes)) : Bytes :=
  Bytes.littleEndian lengthWidth entries.length ++ entries.flatMap entryFields

/-- A body with its checksum in front. -/
def checksummed (payload : Bytes) : Bytes :=
  Bytes.littleEndian checksumWidth (Bytes.crc32 payload).toNat ++ payload

/-- The snapshot whose entries are written in the given order. -/
def image (entries : List (Bytes × Bytes)) : Bytes := checksummed (body entries)

/-- The first bytes of a string and the rest, when there are enough of them. -/
def split? (count : Nat) (bytes : Bytes) : Option (Bytes × Bytes) :=
  let (taken, rest) := bytes.splitAt count
  if taken.length = count then some (taken, rest) else none

/-- Reads a count or a length. -/
def readLength (bytes : Bytes) : Option (Nat × Bytes) :=
  (split? lengthWidth bytes).map fun (digits, rest) => (Bytes.littleEndianValue digits, rest)

/-- Reads a field. -/
def readField (bytes : Bytes) : Option (Bytes × Bytes) := do
  let (length, rest) ← readLength bytes
  split? length rest

/-- Reads a number of entries and puts them into a store in their order. -/
def readEntries : (count : Nat) → Store → Bytes → Option Store
  | 0, store, _ => some store
  | count + 1, store, bytes => do
      let (key, rest) ← readField bytes
      let (value, rest) ← readField rest
      readEntries count (store.insert key value) rest

/-- Reads a body. -/
def readBody (payload : Bytes) : Option Store := do
  let (count, rest) ← readLength payload
  readEntries count Store.empty rest

/-- The store that a snapshot holds. The checksum is compared before anything
else is read. -/
def decode (bytes : Bytes) : Except SnapshotFault Store :=
  match split? checksumWidth bytes with
  | none => .error (.tooShort bytes.length)
  | some (header, payload) =>
      let expected := (Bytes.littleEndianValue header).toUInt32
      let actual := Bytes.crc32 payload
      if expected = actual then
        match readBody payload with
        | none => .error .truncated
        | some store => .ok store
      else .error (.checksumMismatch expected actual)

/-- Whether the checksum in front of a body is that of the body. -/
def isIntact (bytes : Bytes) : Bool :=
  match split? checksumWidth bytes with
  | none => false
  | some (header, payload) => header == Bytes.littleEndian checksumWidth (Bytes.crc32 payload).toNat

/-- The entries of a snapshot, whatever its checksum. -/
def contents (bytes : Bytes) : Option Store := readBody (bytes.drop checksumWidth)

theorem split?_append (front rest : Bytes) :
    split? front.length (front ++ rest) = some (front, rest) := by
  simp [split?, List.splitAt_eq]

/-- A string is split into its first bytes and the rest. -/
theorem split?_eq_some_iff {count : Nat} {bytes front rest : Bytes} :
    split? count bytes = some (front, rest) ↔ front.length = count ∧ bytes = front ++ rest := by
  constructor
  · intro found
    simp only [split?, List.splitAt_eq] at found
    split at found
    · rename_i enough
      obtain ⟨rfl, rfl⟩ := Prod.mk.inj (Option.some.inj found)
      exact ⟨enough, (List.take_append_drop count bytes).symm⟩
    · simp at found
  · rintro ⟨rfl, rfl⟩
    exact split?_append front rest

theorem readLength_littleEndian {number : Nat} (bounded : number < Nat.pow 256 lengthWidth)
    (rest : Bytes) :
    readLength (Bytes.littleEndian lengthWidth number ++ rest) = some (number, rest) := by
  have taken := split?_append (Bytes.littleEndian lengthWidth number) rest
  rw [Bytes.length_littleEndian] at taken
  rw [readLength, taken, Option.map_some]
  dsimp only
  rw [Bytes.littleEndianValue_littleEndian, Nat.mod_eq_of_lt bounded]

/-- A written field is read back. -/
theorem readField_field {bytes : Bytes} (bounded : bytes.length < Nat.pow 256 lengthWidth)
    (rest : Bytes) :
    readField (field bytes ++ rest) = some (bytes, rest) := by
  rw [readField, field, List.append_assoc, readLength_littleEndian bounded]
  exact split?_append bytes rest

end StoreTrial.Snapshot
