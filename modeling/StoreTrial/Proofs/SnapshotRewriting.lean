import Mathlib.Algebra.GroupWithZero.Nat
import StoreTrial.Proofs.SnapshotTruncation

/-! # Rewritten snapshots

A store that was read from a snapshot file can be written again, whatever the file held besides
it: the number of its entries and their lengths come from the file
(`StoreTrial.SnapshotFile.fits_of_load`). The file written for it, with its entries in any order,
is read as the same store. It can be read in one way only, which comes to each key once and leaves
nothing (`StoreTrial.SnapshotFile.load_of_rewritten`).
-/

namespace StoreTrial

namespace Store

theorem size_insertAll_le (entries : List (Bytes × Bytes)) (store : Store) :
    (store.insertAll entries).size ≤ store.size + entries.length := by
  induction entries generalizing store with
  | nil => exact Nat.le_refl _
  | cons entry rest ih =>
      have grown : (store.insert entry.1 entry.2).size ≤ store.size + 1 :=
        Std.ExtTreeMap.size_insert_le
      calc ((store.insert entry.1 entry.2).insertAll rest).size
          ≤ (store.insert entry.1 entry.2).size + rest.length := ih _
        _ ≤ store.size + (entry :: rest).length := by
          rw [List.length_cons]
          omega

/-- Entries that a snapshot can tell make a store that a snapshot can tell. -/
theorem fits_insertAll {entries : List (Bytes × Bytes)} (writable : Snapshot.Writable entries) :
    (empty.insertAll entries).Fits where
  size := by
    have few := size_insertAll_le entries empty
    have none : empty.size = 0 := rfl
    rw [none, Nat.zero_add] at few
    exact Nat.lt_of_le_of_lt few writable.count
  entries := by
    rintro ⟨key, value⟩ member
    have found := mem_entries_iff.mp member
    rw [get?_insertAll_iff, get?_empty] at found
    obtain ⟨before, after, rfl, _⟩ := found.resolve_right (by simp)
    exact writable.lengths _ (by simp)

end Store

namespace Snapshot

theorem length_entryFields (entry : Bytes × Bytes) :
    (entryFields entry).length = 16 + entry.1.length + entry.2.length := by
  simp only [entryFields, field, List.length_append, Bytes.length_littleEndian, lengthWidth]
  omega

/-- A checksum, a number of entries, and two lengths with each entry stand beside the content. -/
theorem length_image (entries : List (Bytes × Bytes)) :
    (image entries).length =
      12 + (entries.map fun entry => 16 + entry.1.length + entry.2.length).sum := by
  simp only [image, checksummed, body, List.length_append, Bytes.length_littleEndian,
    List.length_flatMap, length_entryFields, checksumWidth, lengthWidth]
  omega

/-- The payload of a written snapshot begins with the written entries, and with no others. -/
theorem eq_body_append_iff {entries others : List (Bytes × Bytes)} {rest : Bytes}
    (writable : Writable entries) :
    Writable others ∧ (image entries).drop checksumWidth = body others ++ rest ↔
      others = entries ∧ rest = [] := by
  rw [image, checksummed, drop_checksum_append]
  constructor
  · rintro ⟨otherWritable, same⟩
    rw [← List.append_nil (body entries)] at same
    obtain ⟨listed, nothing⟩ := body_append_inj writable otherWritable same
    exact ⟨listed.symm, nothing.symm⟩
  · rintro ⟨rfl, rfl⟩
    exact ⟨writable, (List.append_nil _).symm⟩

end Snapshot

namespace SnapshotFile

open Snapshot (checksumWidth body Writable)

variable {location elsewhere : String} {disk before after : Disk} {store : Store}

/-- A store that was loaded is one that a snapshot can tell. -/
theorem fits_of_load (loaded : load location disk = .ok store) : store.Fits := by
  rw [load] at loaded
  split at loaded
  · split at loaded
    · cases loaded
    · split at loaded
      · cases loaded
      · rename_i decoded
        cases loaded
        obtain ⟨_, _, read⟩ := Snapshot.decode_eq_ok_iff.mp decoded
        obtain ⟨entries, ⟨writable, _⟩, rfl⟩ := Snapshot.readBody_eq_some_iff.mp read
        exact Store.fits_insertAll writable
  · -- Without a file the store is empty, and so made of no entries.
    cases loaded
    have none : Writable [] := ⟨by decide, by simp⟩
    exact Store.fits_insertAll none

/-- **What is written for a store is loaded as that store, and what was loaded may be written
again.** Let a store be saved, its entries in any order. If its lengths can be told, its file is
loaded as the store. A store that was loaded, from whatever file, is such a store: its new file
has the length of the entries, and the one way to read its payload comes to no key twice and
leaves nothing. -/
theorem load_of_rewritten {entries : List (Bytes × Bytes)} (listed : entries.Perm store.entries)
    (saved : saveEntries elsewhere entries before = (.ok (), after)) :
    (store.Fits → load elsewhere after = .ok store) ∧
    ∀ location disk, load location disk = .ok store →
      load elsewhere after = .ok store ∧
      ∃ content, after.readFile (path elsewhere) = .ok content ∧
        (∀ others rest,
          Writable others ∧ content.drop checksumWidth = body others ++ rest ↔
            others = entries ∧ rest = []) ∧
        (entries.map Prod.fst).Nodup ∧
        content.length =
          12 + (store.entries.map fun entry => 16 + entry.1.length + entry.2.length).sum := by
  refine ⟨fun fits => load_of_saveEntries_eq_ok fits listed saved, ?_⟩
  intro location disk loaded
  have fits := fits_of_load loaded
  refine ⟨load_of_saveEntries_eq_ok fits listed saved, Snapshot.image entries,
    (saveEntries_eq_ok saved).2, ?_, ?_, ?_⟩
  · intro others rest
    exact Snapshot.eq_body_append_iff (fits.writable listed)
  · exact (listed.map Prod.fst).nodup_iff.mpr store.nodup_keys
  · rw [Snapshot.length_image, (listed.map _).sum_nat]

/-- A file with a repeated key and bytes behind its entries is loaded, and its store is written
in another order. -/
theorem load_of_rewritten_repeated_key :
    let content := Snapshot.checksummed (body [([1], [2]), ([4], []), ([1], [3])] ++ [9, 9])
    let made := (Disk.empty.makeDirectories (.ofText "db")).2
    let disk := made.set ["DATA_SNAPSHOT", "db"] (.file content)
    let store := ((Store.empty.insert [1] [2]).insert [4] []).insert [1] [3]
    let entries : List (Bytes × Bytes) := [([4], []), ([1], [3])]
    let after := (saveEntries "db" entries disk).2
    (entries.Perm store.entries ∧ saveEntries "db" entries disk = (.ok (), after) ∧
      load "db" disk = .ok store ∧ store.Fits) ∧
    disk.readFile (path "db") = .ok content ∧ content.length = 67 ∧
    load "db" after = .ok store ∧
      ∃ rewritten, after.readFile (path "db") = .ok rewritten ∧ rewritten.length = 47 := by
  intro content made disk store entries after
  have listed : entries.Perm store.entries := by
    have order : store.entries = [([1], [3]), ([4], [])] := by decide +kernel
    rw [order]
    exact .swap _ _ _
  have saved : saveEntries "db" entries disk = (.ok (), after) := by decide +kernel
  have read : disk.readFile (path "db") = .ok content := rfl
  have loaded : load "db" disk = .ok store := by
    have parsed : Snapshot.readBody (body [([1], [2]), ([4], []), ([1], [3])] ++ [9, 9]) =
        some store := by decide +kernel
    rw [load_of_readFile read, Snapshot.decode_checksummed, parsed]
  obtain ⟨back, again⟩ := load_of_rewritten listed saved
  obtain ⟨_, rewritten, reread, _, _, length⟩ := again "db" disk loaded
  have fits : store.Fits := by decide +kernel
  refine ⟨⟨listed, saved, loaded, fits⟩, read, by decide +kernel, back fits, rewritten, reread, ?_⟩
  rw [length]
  decide +kernel

end SnapshotFile

end StoreTrial
