import StoreTrial.Proofs.EngineCalls
import StoreTrial.Proofs.SnapshotReplacement

/-! # What a snapshot file is read as

The readers accept exactly what the writers produce, followed by anything: a length
(`StoreTrial.Snapshot.readLength_eq_some_iff`), a field, a number of entries, a body
(`StoreTrial.Snapshot.readBody_eq_some_iff`). A snapshot file is therefore read as a store
exactly if its checksum is that of the payload and the payload begins with a body
(`StoreTrial.SnapshotFile.load_eq_ok_iff`); every other file is refused for one of three
reasons.
-/

namespace StoreTrial

namespace Snapshot

/-- The last entry with a key has this value. -/
def Latest (entries : List (Bytes × Bytes)) (key value : Bytes) : Prop :=
  ∃ before after, entries = before ++ (key, value) :: after ∧ key ∉ after.map Prod.fst

/-- A payload begins with these entries, behind their number. -/
def Begins (payload : Bytes) (entries : List (Bytes × Bytes)) : Prop :=
  Writable entries ∧ ∃ rest, payload = body entries ++ rest

theorem not_latest_nil (key value : Bytes) : ¬Latest [] key value := by
  rintro ⟨before, after, split, _⟩
  simp at split

theorem latest_cons_iff {entry : Bytes × Bytes} {rest : List (Bytes × Bytes)} {key value : Bytes} :
    Latest (entry :: rest) key value ↔
      Latest rest key value ∨ entry = (key, value) ∧ key ∉ rest.map Prod.fst := by
  constructor
  · rintro ⟨before, after, split, absent⟩
    cases before with
    | nil =>
        obtain ⟨rfl, rfl⟩ := List.cons.inj split
        exact .inr ⟨rfl, absent⟩
    | cons first before =>
        obtain ⟨rfl, rfl⟩ := List.cons.inj split
        exact .inl ⟨before, after, rfl, absent⟩
  · rintro (⟨before, after, rfl, absent⟩ | ⟨rfl, absent⟩)
    · exact ⟨entry :: before, after, rfl, absent⟩
    · exact ⟨[], rest, rfl, absent⟩

end Snapshot

open Snapshot (Latest latest_cons_iff)

/-- After entries are put into a store, a key holds what came last for it, or else what it
held before. -/
theorem Store.get?_insertAll_iff (entries : List (Bytes × Bytes)) (store : Store)
    (key value : Bytes) :
    (store.insertAll entries).get? key = some value ↔
      Latest entries key value ∨ key ∉ entries.map Prod.fst ∧ store.get? key = some value := by
  induction entries generalizing store with
  | nil => simp [insertAll, Snapshot.not_latest_nil]
  | cons entry rest ih =>
      obtain ⟨first, held⟩ := entry
      change ((store.insert first held).insertAll rest).get? key = some value ↔ _
      rw [ih, latest_cons_iff, get?_insert]
      by_cases same : key = first
      · subst same
        simp [eq_comm, and_comm]
      · simp [same, Ne.symm same]

namespace Snapshot

theorem readLength_eq_some_iff {bytes rest : Bytes} {number : Nat} :
    readLength bytes = some (number, rest) ↔
      IsLength number ∧ bytes = Bytes.littleEndian lengthWidth number ++ rest := by
  constructor
  · intro read
    obtain ⟨⟨digits, left⟩, taken, same⟩ := Option.map_eq_some_iff.mp read
    obtain ⟨rfl, rfl⟩ := Prod.mk.inj same
    obtain ⟨width, rfl⟩ := split?_eq_some_iff.mp taken
    have bounded := Bytes.littleEndianValue_lt digits
    have digitsBack := Bytes.littleEndian_littleEndianValue digits
    rw [width] at bounded digitsBack
    exact ⟨bounded, by rw [digitsBack]⟩
  · rintro ⟨bounded, rfl⟩
    exact readLength_littleEndian bounded rest

theorem readField_eq_some_iff {bytes content rest : Bytes} :
    readField bytes = some (content, rest) ↔
      IsLength content.length ∧ bytes = field content ++ rest := by
  constructor
  · intro read
    obtain ⟨⟨length, left⟩, counted, taken⟩ := Option.bind_eq_some_iff.mp read
    obtain ⟨bounded, rfl⟩ := readLength_eq_some_iff.mp counted
    obtain ⟨rfl, rfl⟩ := split?_eq_some_iff.mp taken
    exact ⟨bounded, by rw [field, List.append_assoc]⟩
  · rintro ⟨bounded, rfl⟩
    exact readField_field bounded rest

/-- Entries are read exactly when all of them are there. -/
theorem readEntries_eq_some_iff {count : Nat} {store read : Store} {bytes : Bytes} :
    readEntries count store bytes = some read ↔
      ∃ entries rest, entries.length = count ∧
        (∀ entry ∈ entries, IsLength entry.1.length ∧ IsLength entry.2.length) ∧
        bytes = entries.flatMap entryFields ++ rest ∧ read = store.insertAll entries := by
  constructor
  · intro found
    induction count generalizing store bytes with
    | zero =>
        cases found
        exact ⟨[], bytes, rfl, by simp, rfl, rfl⟩
    | succ count ih =>
        obtain ⟨⟨key, afterKey⟩, readKey, behindKey⟩ := Option.bind_eq_some_iff.mp found
        obtain ⟨⟨value, afterValue⟩, readValue, behindValue⟩ := Option.bind_eq_some_iff.mp behindKey
        obtain ⟨keyLength, rfl⟩ := readField_eq_some_iff.mp readKey
        obtain ⟨valueLength, rfl⟩ := readField_eq_some_iff.mp readValue
        obtain ⟨entries, rest, rfl, lengths, rfl, rfl⟩ := ih behindValue
        refine ⟨(key, value) :: entries, rest, rfl, ?_, ?_, rfl⟩
        · exact List.forall_mem_cons.mpr ⟨⟨keyLength, valueLength⟩, lengths⟩
        · simp [entryFields]
  · rintro ⟨entries, rest, rfl, lengths, rfl, rfl⟩
    exact readEntries_flatMap lengths store rest

/-- A payload is read exactly when it begins with entries, and these make the store. -/
theorem readBody_eq_some_iff {payload : Bytes} {read : Store} :
    readBody payload = some read ↔
      ∃ entries, Begins payload entries ∧ read = Store.empty.insertAll entries := by
  constructor
  · intro found
    obtain ⟨⟨count, left⟩, counted, behindCount⟩ := Option.bind_eq_some_iff.mp found
    obtain ⟨bounded, rfl⟩ := readLength_eq_some_iff.mp counted
    obtain ⟨entries, rest, rfl, lengths, rfl, rfl⟩ := readEntries_eq_some_iff.mp behindCount
    exact ⟨entries, ⟨⟨bounded, lengths⟩, rest, by rw [body, List.append_assoc]⟩, rfl⟩
  · rintro ⟨entries, ⟨writable, rest, rfl⟩, rfl⟩
    exact readBody_body writable rest

/-- The entries of a payload make the store in which each key has its last value. -/
theorem readBody_eq_some_iff_latest {payload : Bytes} {read : Store} :
    readBody payload = some read ↔
      ∃ entries, Begins payload entries ∧
        ∀ key value, read.get? key = some value ↔ Latest entries key value := by
  have made (entries : List (Bytes × Bytes)) :
      read = Store.empty.insertAll entries ↔
        ∀ key value, read.get? key = some value ↔ Latest entries key value := by
    have held (key value : Bytes) :
        (Store.empty.insertAll entries).get? key = some value ↔ Latest entries key value := by
      rw [Store.get?_insertAll_iff, Store.get?_empty]
      simp
    constructor
    · rintro rfl
      exact held
    · intro same
      apply Store.ext_get?
      intro key
      apply Option.ext
      intro value
      rw [same, held]
  simp only [readBody_eq_some_iff, made]

end Snapshot

/-- Why the content of a file is no snapshot. -/
def SnapshotFault.Explains (content : Bytes) : SnapshotFault → Prop
  | .tooShort length => length = content.length ∧ content.length < Snapshot.checksumWidth
  | .checksumMismatch expected actual =>
      Snapshot.checksumWidth ≤ content.length ∧ expected ≠ actual ∧
        content.take Snapshot.checksumWidth =
          Bytes.littleEndian Snapshot.checksumWidth expected.toNat ∧
        actual = Bytes.crc32 (content.drop Snapshot.checksumWidth)
  | .truncated =>
      Snapshot.checksumWidth ≤ content.length ∧
        content.take Snapshot.checksumWidth = Bytes.littleEndian Snapshot.checksumWidth
          (Bytes.crc32 (content.drop Snapshot.checksumWidth)).toNat ∧
        ∀ entries, ¬Snapshot.Begins (content.drop Snapshot.checksumWidth) entries
  | .reported _ => False

namespace Snapshot

/-- Checksums with the same bytes are the same. -/
theorem checksum_inj {left right : UInt32}
    (same : Bytes.littleEndian checksumWidth left.toNat =
      Bytes.littleEndian checksumWidth right.toNat) : left = right := by
  rw [← toUInt32_checksum left, same, toUInt32_checksum]

/-- Four bytes are the bytes of a checksum. -/
theorem exists_checksum {header : Bytes} (width : header.length = checksumWidth) :
    ∃ checksum : UInt32, header = Bytes.littleEndian checksumWidth checksum.toNat := by
  have bounded := Bytes.littleEndianValue_lt header
  have back := Bytes.littleEndian_littleEndianValue header
  rw [width] at bounded back
  have kept : (Bytes.littleEndianValue header).toUInt32.toNat = Bytes.littleEndianValue header :=
    Nat.mod_eq_of_lt bounded
  exact ⟨(Bytes.littleEndianValue header).toUInt32, by rw [kept, back]⟩

/-- A content is too short, or a checksum and a payload. -/
theorem short_or_checksum_append (content : Bytes) :
    content.length < checksumWidth ∨
      ∃ (checksum : UInt32) (payload : Bytes),
        content = Bytes.littleEndian checksumWidth checksum.toNat ++ payload := by
  by_cases long : checksumWidth ≤ content.length
  · obtain ⟨checksum, header⟩ := exists_checksum (List.length_take_of_le long)
    exact .inr ⟨checksum, content.drop checksumWidth, by rw [← header, List.take_append_drop]⟩
  · exact .inl (Nat.lt_of_not_le long)

theorem decode_of_length_lt {content : Bytes} (short : content.length < checksumWidth) :
    decode content = .error (.tooShort content.length) := by
  have parts : split? checksumWidth content = none := by
    rw [Option.eq_none_iff_forall_ne_some]
    rintro ⟨front, rest⟩ taken
    obtain ⟨width, rfl⟩ := split?_eq_some_iff.mp taken
    rw [List.length_append] at short
    omega
  rw [decode, parts]

@[simp]
theorem take_checksum_append (checksum : UInt32) (payload : Bytes) :
    (Bytes.littleEndian checksumWidth checksum.toNat ++ payload).take checksumWidth =
      Bytes.littleEndian checksumWidth checksum.toNat :=
  List.take_left' (Bytes.length_littleEndian _ _)

@[simp]
theorem drop_checksum_append (checksum : UInt32) (payload : Bytes) :
    (Bytes.littleEndian checksumWidth checksum.toNat ++ payload).drop checksumWidth = payload :=
  List.drop_left' (Bytes.length_littleEndian _ _)

theorem decode_eq_ok_iff {content : Bytes} {store : Store} :
    decode content = .ok store ↔
      checksumWidth ≤ content.length ∧
      content.take checksumWidth =
        Bytes.littleEndian checksumWidth (Bytes.crc32 (content.drop checksumWidth)).toNat ∧
      readBody (content.drop checksumWidth) = some store := by
  rcases short_or_checksum_append content with short | ⟨checksum, payload, rfl⟩
  · rw [decode_of_length_lt short]
    simp [Nat.not_le_of_lt short]
  · have same : Bytes.littleEndian checksumWidth checksum.toNat =
        Bytes.littleEndian checksumWidth (Bytes.crc32 payload).toNat ↔
          checksum = Bytes.crc32 payload :=
      ⟨checksum_inj, fun equal => by rw [equal]⟩
    rw [decode_checksum_append, take_checksum_append, drop_checksum_append, same]
    split
    · rename_i equal
      cases readBody payload with
      | none => simp
      | some read => simp [equal]
    · rename_i different
      simp [different]

theorem explains_of_decode {content : Bytes} {fault : SnapshotFault}
    (failed : decode content = .error fault) : fault.Explains content := by
  rcases short_or_checksum_append content with short | ⟨checksum, payload, rfl⟩
  · rw [decode_of_length_lt short] at failed
    cases failed
    exact ⟨rfl, short⟩
  · have long : checksumWidth ≤
        (Bytes.littleEndian checksumWidth checksum.toNat ++ payload).length := by simp
    rw [decode_checksum_append] at failed
    split at failed
    · rename_i same
      split at failed
      · rename_i unread
        cases failed
        refine ⟨long, by simp [same], fun entries begins => ?_⟩
        rw [drop_checksum_append] at begins
        have read := readBody_eq_some_iff.mpr ⟨entries, begins, rfl⟩
        rw [unread] at read
        contradiction
      · cases failed
    · rename_i different
      cases failed
      exact ⟨long, different, by simp, by simp⟩

end Snapshot

namespace SnapshotFile

open Snapshot (checksumWidth Begins)

/-- **What a snapshot file is read as.** A file is read as a store exactly if it begins with
the checksum of its payload, and the payload begins with the number of entries and that many
whole entries; the store then gives each key the value of its last entry. Any other file is
refused as no snapshot, with the reason. -/
theorem load_eq_ok_iff {location : String} {disk : Disk} {content : Bytes}
    (read : disk.readFile (path location) = .ok content) :
    (∀ store, load location disk = .ok store ↔
      checksumWidth ≤ content.length ∧
      content.take checksumWidth =
        Bytes.littleEndian checksumWidth (Bytes.crc32 (content.drop checksumWidth)).toNat ∧
      ∃ entries, Begins (content.drop checksumWidth) entries ∧
        ∀ key value, store.get? key = some value ↔ Snapshot.Latest entries key value) ∧
    ((∃ store, load location disk = .ok store) ∨
      ∃ fault, load location disk = .error (.serialization fault) ∧ fault.Explains content) := by
  rw [load_of_readFile read]
  cases decoded : Snapshot.decode content with
  | ok kept =>
      refine ⟨fun store => ?_, .inl ⟨kept, rfl⟩⟩
      rw [← Snapshot.readBody_eq_some_iff_latest, ← Snapshot.decode_eq_ok_iff, decoded]
      simp
  | error fault =>
      refine ⟨fun store => ?_, .inr ⟨fault, rfl, Snapshot.explains_of_decode decoded⟩⟩
      rw [← Snapshot.readBody_eq_some_iff_latest, ← Snapshot.decode_eq_ok_iff, decoded]
      simp

/-- Of two values for a key the second counts, and what follows the entries does not. -/
theorem load_eq_ok_iff_repeated_key :
    let content := Snapshot.checksummed (Snapshot.body [([1], [2]), ([1], [3])] ++ [9, 9])
    let made := (Disk.empty.makeDirectories (.ofText "db")).2
    let disk := made.set ["DATA_SNAPSHOT", "db"] (.file content)
    let store := Store.empty.insert [1] [3]
    disk.readFile (path "db") = .ok content ∧ load "db" disk = .ok store ∧
      ∃ entries, Begins (content.drop checksumWidth) entries ∧
        ∀ key value, store.get? key = some value ↔ Snapshot.Latest entries key value := by
  intro content made disk store
  have read : disk.readFile (path "db") = .ok content := by decide +kernel
  have loaded : load "db" disk = .ok store := by decide +kernel
  exact ⟨read, loaded, (((load_eq_ok_iff read).1 store).mp loaded).2.2⟩

end SnapshotFile

end StoreTrial
