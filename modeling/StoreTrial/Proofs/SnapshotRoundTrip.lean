import StoreTrial.Store.Snapshot

/-! # Reading back a written snapshot

The entries of a store may be written in any order, since no key comes twice
among them: putting them into the empty store gives the store again
(`StoreTrial.Store.insertAll_of_perm`). A snapshot whose entries come in such an
order is therefore read as the store it was written for
(`StoreTrial.Snapshot.decode_image_of_perm`), as long as every length and the
number of keys are numbers of eight bytes.
-/

namespace StoreTrial

/-- A number that the eight bytes of a length or a count can hold. -/
def Snapshot.IsLength (number : Nat) : Prop := number < Nat.pow 256 lengthWidth

instance (number : Nat) : Decidable (Snapshot.IsLength number) :=
  inferInstanceAs (Decidable (number < Nat.pow 256 Snapshot.lengthWidth))

/-- Entries whose number and lengths the snapshot can tell. -/
structure Snapshot.Writable (entries : List (Bytes × Bytes)) : Prop where
  count : IsLength entries.length
  lengths : ∀ entry ∈ entries, IsLength entry.1.length ∧ IsLength entry.2.length

namespace Store

open Snapshot (IsLength)

/-- A store of a machine whose lengths are numbers of eight bytes. -/
structure Fits (store : Store) : Prop where
  size : IsLength store.size
  entries : ∀ entry ∈ store.entries, IsLength entry.1.length ∧ IsLength entry.2.length

instance (store : Store) : Decidable store.Fits :=
  decidable_of_iff (IsLength store.size ∧
      ∀ entry ∈ store.entries, IsLength entry.1.length ∧ IsLength entry.2.length)
    ⟨fun both => ⟨both.1, both.2⟩, fun fits => ⟨fits.size, fits.entries⟩⟩

/-- Nothing is erased where no key is. -/
theorem erase_of_not_contains {store : Store} {key : Bytes} (absent : store.contains key = false) :
    store.erase key = store := by
  apply ext_get?
  intro sought
  rw [get?_erase]
  split
  · rename_i same
    rw [same, Option.isNone_iff_eq_none.mp (Option.isSome_eq_false_iff.mp absent)]
  · rfl

/-- No key comes twice among the entries of a store. -/
theorem nodup_keys (store : Store) : (store.entries.map Prod.fst).Nodup := by
  rw [List.Nodup, List.pairwise_map]
  refine store.pairwise_entries.imp ?_
  intro left right before same
  rw [same, Std.compare_self] at before
  contradiction

/-- When entries with different keys are put into a store, a key holds what came
for it, or else what it held before. -/
theorem get?_insertAll {entries : List (Bytes × Bytes)} (distinct : (entries.map Prod.fst).Nodup)
    (store : Store) (key value : Bytes) :
    (store.insertAll entries).get? key = some value ↔
      (key, value) ∈ entries ∨ key ∉ entries.map Prod.fst ∧ store.get? key = some value := by
  induction entries generalizing store with
  | nil => simp [insertAll]
  | cons entry rest ih =>
      obtain ⟨first, held⟩ := entry
      rw [List.map_cons, List.nodup_cons] at distinct
      obtain ⟨fresh, distinct⟩ := distinct
      change ((store.insert first held).insertAll rest).get? key = some value ↔ _
      rw [ih distinct, get?_insert]
      by_cases same : key = first
      · subst same
        have absent : (key, value) ∉ rest := fun member =>
          fresh (List.mem_map.mpr ⟨_, member, rfl⟩)
        have fresh' : key ∉ rest.map Prod.fst := fresh
        simp [absent, fresh', eq_comm]
      · simp [same]

theorem Fits.writable {store : Store} (fits : store.Fits) {entries : List (Bytes × Bytes)}
    (listed : entries.Perm store.entries) : Snapshot.Writable entries where
  count := by
    rw [listed.length_eq, store.length_entries]
    exact fits.size
  lengths := fun entry member => fits.entries entry (listed.mem_iff.mp member)

/-- Putting the entries of a store into the empty store, in any order, gives the
store. -/
theorem insertAll_of_perm {store : Store} {entries : List (Bytes × Bytes)}
    (listed : entries.Perm store.entries) : empty.insertAll entries = store := by
  have distinct : (entries.map Prod.fst).Nodup :=
    (listed.map Prod.fst).nodup_iff.mpr store.nodup_keys
  apply ext_get?
  intro key
  apply Option.ext
  intro value
  rw [get?_insertAll distinct, get?_empty, listed.mem_iff, mem_entries_iff]
  simp

end Store

namespace Snapshot

/-- Written entries are read back and put into the store one after another. -/
theorem readEntries_flatMap {entries : List (Bytes × Bytes)}
    (lengths : ∀ entry ∈ entries,
      IsLength entry.1.length ∧ IsLength entry.2.length)
    (store : Store) (rest : Bytes) :
    readEntries entries.length store (entries.flatMap entryFields ++ rest) =
      some (store.insertAll entries) := by
  induction entries generalizing store with
  | nil => rfl
  | cons entry others ih =>
      obtain ⟨⟨key, value⟩, later⟩ := List.forall_mem_cons.mp lengths
      rw [List.length_cons, List.flatMap_cons, entryFields, readEntries, List.append_assoc,
        List.append_assoc, readField_field key, Option.bind_eq_bind, Option.bind_some]
      dsimp only
      rw [readField_field value, Option.bind_some]
      exact ih later (store.insert entry.1 entry.2)

/-- A written body is read back, whatever follows it. -/
theorem readBody_body {entries : List (Bytes × Bytes)} (writable : Writable entries)
    (rest : Bytes) :
    readBody (body entries ++ rest) = some (Store.empty.insertAll entries) := by
  rw [readBody, body, List.append_assoc, readLength_littleEndian writable.count,
    Option.bind_eq_bind, Option.bind_some]
  exact readEntries_flatMap writable.lengths Store.empty rest

/-- A written checksum is read back. -/
theorem toUInt32_checksum (checksum : UInt32) :
    (Bytes.littleEndianValue (Bytes.littleEndian checksumWidth checksum.toNat)).toUInt32 =
      checksum := by
  have bounded : checksum.toNat < Nat.pow 256 checksumWidth := checksum.toNat_lt
  rw [Bytes.littleEndianValue_littleEndian, Nat.mod_eq_of_lt bounded]
  exact UInt32.ofNat_toNat

/-- A payload behind a checksum is read if that is its checksum. -/
theorem decode_checksum_append (checksum : UInt32) (payload : Bytes) :
    decode (Bytes.littleEndian checksumWidth checksum.toNat ++ payload) =
      if checksum = Bytes.crc32 payload then
        match readBody payload with
        | none => .error .truncated
        | some store => .ok store
      else .error (.checksumMismatch checksum (Bytes.crc32 payload)) := by
  have parts := split?_append (Bytes.littleEndian checksumWidth checksum.toNat) payload
  rw [Bytes.length_littleEndian] at parts
  have read := toUInt32_checksum checksum
  rw [decode, parts]
  generalize Bytes.littleEndian checksumWidth checksum.toNat = written at read
  subst read
  rfl

/-- Under its own checksum a body decides alone what is read. -/
theorem decode_checksummed (payload : Bytes) :
    decode (checksummed payload) =
      match readBody payload with
      | none => .error .truncated
      | some store => .ok store := by
  rw [checksummed, decode_checksum_append, if_pos rfl]

/-- The snapshot of a store is read as that store, in whatever order its entries
were written. -/
theorem decode_image_of_perm {store : Store} (fits : store.Fits) {entries : List (Bytes × Bytes)}
    (listed : entries.Perm store.entries) : decode (image entries) = .ok store := by
  have whole := readBody_body (fits.writable listed) []
  rw [List.append_nil] at whole
  rw [image, decode_checksummed, whole, Store.insertAll_of_perm listed]

end Snapshot

end StoreTrial
