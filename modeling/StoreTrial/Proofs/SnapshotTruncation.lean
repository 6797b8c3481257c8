import StoreTrial.Proofs.SnapshotReading

/-! # Snapshot files that were cut short

No written body begins another one (`StoreTrial.Snapshot.body_append_inj`), so what is left
of a body that was cut short is not read, although it may have the checksum of the whole. A
snapshot file that was cut short is therefore never read as a store
(`StoreTrial.SnapshotFile.load_of_cut_short`).
-/

namespace StoreTrial

namespace Snapshot

/-- A field shows where it ends. -/
theorem field_append_inj {left right leftRest rightRest : Bytes}
    (leftLength : IsLength left.length) (rightLength : IsLength right.length)
    (same : field left ++ leftRest = field right ++ rightRest) :
    left = right ∧ leftRest = rightRest := by
  have read := readField_field leftLength leftRest
  rw [same, readField_field rightLength] at read
  obtain ⟨equal, rest⟩ := Prod.mk.inj (Option.some.inj read)
  exact ⟨equal.symm, rest.symm⟩

/-- As many entries show where they end. -/
theorem flatMap_entryFields_append_inj {left right : List (Bytes × Bytes)}
    {leftRest rightRest : Bytes}
    (leftLengths : ∀ entry ∈ left, IsLength entry.1.length ∧ IsLength entry.2.length)
    (rightLengths : ∀ entry ∈ right, IsLength entry.1.length ∧ IsLength entry.2.length)
    (count : left.length = right.length)
    (same : left.flatMap entryFields ++ leftRest = right.flatMap entryFields ++ rightRest) :
    left = right ∧ leftRest = rightRest := by
  induction left generalizing right with
  | nil =>
      cases right with
      | nil => exact ⟨rfl, same⟩
      | cons entry right => contradiction
  | cons first left ih =>
      cases right with
      | nil => contradiction
      | cons second right =>
          obtain ⟨⟨leftKey, leftValue⟩, leftLater⟩ := List.forall_mem_cons.mp leftLengths
          obtain ⟨⟨rightKey, rightValue⟩, rightLater⟩ := List.forall_mem_cons.mp rightLengths
          simp only [List.flatMap_cons, entryFields, List.append_assoc] at same
          obtain ⟨keys, same⟩ := field_append_inj leftKey rightKey same
          obtain ⟨values, same⟩ := field_append_inj leftValue rightValue same
          obtain ⟨rfl, rest⟩ := ih leftLater rightLater (Nat.succ.inj count) same
          exact ⟨by rw [Prod.ext keys values], rest⟩

/-- A body shows where it ends, and what its entries are. -/
theorem body_append_inj {left right : List (Bytes × Bytes)} {leftRest rightRest : Bytes}
    (leftWritable : Writable left) (rightWritable : Writable right)
    (same : body left ++ leftRest = body right ++ rightRest) :
    left = right ∧ leftRest = rightRest := by
  simp only [body, List.append_assoc] at same
  have read := readLength_littleEndian leftWritable.count (left.flatMap entryFields ++ leftRest)
  rw [same, readLength_littleEndian rightWritable.count] at read
  obtain ⟨count, rest⟩ := Prod.mk.inj (Option.some.inj read)
  exact flatMap_entryFields_append_inj leftWritable.lengths rightWritable.lengths count.symm
    rest.symm

/-- What is left of a body that was cut short begins with no entries at all. -/
theorem readBody_of_cut {entries : List (Bytes × Bytes)} {short lost : Bytes}
    (writable : Writable entries) (cut : short ++ lost = body entries) (proper : lost ≠ []) :
    readBody short = none := by
  rw [Option.eq_none_iff_forall_ne_some]
  intro read found
  obtain ⟨others, ⟨otherWritable, rest, rfl⟩, _⟩ := readBody_eq_some_iff.mp found
  have same : body others ++ (rest ++ lost) = body entries ++ [] := by
    rw [← List.append_assoc, cut, List.append_nil]
  obtain ⟨_, nothing⟩ := body_append_inj otherWritable writable same
  exact proper (List.append_eq_nil_iff.mp nothing).2

/-- What is left of a snapshot that was cut short is refused: as too short, as changed, or,
should the checksum agree, as truncated. -/
theorem decode_of_cut {entries : List (Bytes × Bytes)} {short lost : Bytes}
    (writable : Writable entries) (cut : short ++ lost = image entries) (proper : lost ≠ []) :
    decode short = .error (
      if short.length < checksumWidth then .tooShort short.length
      else if Bytes.crc32 (short.drop checksumWidth) = Bytes.crc32 (body entries) then .truncated
      else .checksumMismatch (Bytes.crc32 (body entries))
        (Bytes.crc32 (short.drop checksumWidth))) := by
  rcases short_or_checksum_append short with early | ⟨checksum, payload, rfl⟩
  · rw [decode_of_length_lt early, if_pos early]
  · have late : ¬(Bytes.littleEndian checksumWidth checksum.toNat ++ payload).length <
        checksumWidth := by simp
    rw [image, checksummed, List.append_assoc] at cut
    obtain ⟨header, cutBody⟩ := List.append_inj cut (by simp)
    obtain rfl := checksum_inj header
    have unread := readBody_of_cut writable cutBody proper
    rw [decode_checksum_append, drop_checksum_append, if_neg late, unread]
    by_cases agree : Bytes.crc32 (body entries) = Bytes.crc32 payload
    · rw [if_pos agree, if_pos agree.symm]
    · rw [if_neg agree, if_neg (Ne.symm agree)]

end Snapshot

namespace SnapshotFile

open Snapshot (checksumWidth body)

/-- **A snapshot file that was cut short is refused.** Let a store be saved, its entries in any
order, and let a location be left with the beginning of that file. Loading it fails, for a
reason that follows from the length and the checksum of what is left, even if that is the
checksum of the whole. -/
theorem load_of_cut_short {location : String} {store : Store} (fits : store.Fits)
    {entries : List (Bytes × Bytes)} (listed : entries.Perm store.entries) {start kept disk : Disk}
    (saved : saveEntries location entries start = (.ok (), kept)) {whole short : Bytes}
    (written : kept.readFile (path location) = .ok whole)
    (cut : short <+: whole) (proper : short ≠ whole)
    (read : disk.readFile (path location) = .ok short) :
    load location disk = .error (.serialization (
      if short.length < checksumWidth then .tooShort short.length
      else if Bytes.crc32 (short.drop checksumWidth) = Bytes.crc32 (body entries) then .truncated
      else .checksumMismatch (Bytes.crc32 (body entries))
        (Bytes.crc32 (short.drop checksumWidth)))) := by
  have image : whole = Snapshot.image entries :=
    Except.ok.inj (written.symm.trans (saveEntries_eq_ok saved).2)
  obtain ⟨lost, split⟩ := cut
  have missing : lost ≠ [] := by
    rintro rfl
    exact proper (by rw [← split, List.append_nil])
  rw [load_of_readFile read,
    Snapshot.decode_of_cut (fits.writable listed) (split.trans image) missing]

/-- Without its value an entry may have the checksum it has with it. -/
theorem load_of_cut_short_same_checksum :
    let store := Store.empty.insert [1] [12, 110, 153, 233]
    let start := (Disk.empty.makeDirectories (.ofText "db")).2
    let kept := (saveEntries "db" store.entries start).2
    let whole := Snapshot.image store.entries
    let short := whole.take (whole.length - 4)
    let disk := kept.set ["DATA_SNAPSHOT", "db"] (.file short)
    (store.Fits ∧ saveEntries "db" store.entries start = (.ok (), kept) ∧
      kept.readFile (path "db") = .ok whole ∧ disk.readFile (path "db") = .ok short ∧
      Bytes.crc32 (short.drop checksumWidth) = Bytes.crc32 (body store.entries)) ∧
    load "db" disk = .error (.serialization .truncated) := by
  intro store start kept whole short disk
  have fits : store.Fits := by decide +kernel
  have saved : saveEntries "db" store.entries start = (.ok (), kept) := by decide +kernel
  have written : kept.readFile (path "db") = .ok whole := by decide +kernel
  have proper : short ≠ whole := by decide +kernel
  have read : disk.readFile (path "db") = .ok short := by decide +kernel
  have long : ¬short.length < checksumWidth := by decide +kernel
  have agree : Bytes.crc32 (short.drop checksumWidth) = Bytes.crc32 (body store.entries) := by
    decide +kernel
  refine ⟨⟨fits, saved, written, read, agree⟩, ?_⟩
  rw [load_of_cut_short fits (.refl _) saved written (List.take_prefix _ _) proper read,
    if_neg long, if_pos agree]

end SnapshotFile

end StoreTrial
