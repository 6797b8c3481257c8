import StoreTrial.Proofs.PathInside
import StoreTrial.Proofs.SnapshotRoundTrip
import StoreTrial.Store.SnapshotFile

/-! # Replacing a snapshot file

After a snapshot was saved, its location holds the store it was saved for, in
whatever order the entries were written
(`StoreTrial.SnapshotFile.load_of_saveEntries_eq_ok`). When it could not be saved, the
location holds what it held before, although the draft may be there
(`StoreTrial.SnapshotFile.saveEntries_eq_error`).
-/

namespace StoreTrial.SnapshotFile

variable {location : String} {entries : List (Bytes × Bytes)} {disk changed : Disk}

theorem isFileName_name : Path.IsFileName name := by decide

theorem isFileName_draft : Path.IsFileName (name ++ ".tmp") := by decide

theorem name_ne_draft : name ≠ name ++ ".tmp" := by decide

/-- A location whose snapshot file is read holds what is decoded from it. -/
theorem load_of_readFile {content : Bytes} (read : disk.readFile (path location) = .ok content) :
    load location disk =
      match Snapshot.decode content with
      | .error fault => .error (.serialization fault)
      | .ok store => .ok store := by
  obtain ⟨place, found⟩ := Disk.readFile_eq_ok_iff.mp read
  have present : disk.exists? (path location) = true := Disk.exists?_eq_true_iff.mpr ⟨_, found⟩
  cases decoded : Snapshot.decode content with
  | error fault => simp only [load, present, read, decoded, ↓reduceIte]
  | ok store => simp only [load, present, read, decoded, ↓reduceIte]

/-- A location without a snapshot file holds the empty store. -/
theorem load_of_not_exists? (absent : disk.exists? (path location) = false) :
    load location disk = .ok Store.empty := by
  rw [load, absent, if_neg Bool.false_ne_true]

/-- The snapshot file of a location is not a directory by its name. -/
theorem trailing_path (location : String) : (path location).trailing = false :=
  isFileName_name.isPiece.trailing_join location

/-- A saved snapshot is the content of its file, and no directory has changed. -/
theorem saveEntries_eq_ok (saved : saveEntries location entries disk = (.ok (), changed)) :
    disk.SameDirectories changed ∧ changed.readFile (path location) = .ok (Snapshot.image entries)
    := by
  rw [saveEntries] at saved
  split at saved
  · cases saved
  rename_i drafted written
  split at saved
  · cases saved
  rename_i published moved
  cases saved
  refine ⟨(Disk.sameDirectories_of_writeFile written).trans
    (Disk.sameDirectories_of_renameFile moved), ?_⟩
  obtain ⟨draftPlace, draftFound⟩ := Disk.find_of_writeFile written
  obtain ⟨source, content, place, found, there⟩ :=
    Disk.find_of_renameFile (trailing_path location) moved
  rw [draftFound] at found
  cases found
  exact Disk.readFile_eq_ok_iff.mpr ⟨place, there⟩

/-- After a snapshot was saved the location holds the store it was saved for. -/
theorem load_of_saveEntries_eq_ok {store : Store} (fits : store.Fits)
    (listed : entries.Perm store.entries)
    (saved : saveEntries location entries disk = (.ok (), changed)) :
    load location changed = .ok store := by
  rw [load_of_readFile (saveEntries_eq_ok saved).2, Snapshot.decode_image_of_perm fits listed]

/-- The path of a draft is that of the snapshot with an ending. -/
theorem join_draft (location : String) :
    Path.join location (name ++ ".tmp") = Path.join location name ++ ".tmp" := by
  rw [Path.join, Path.join, isFileName_draft.isPiece.unrooted, isFileName_name.isPiece.unrooted]
  split
  · rfl
  · split
    · exact (String.append_assoc ..).symm
    · exact (String.append_assoc ..).symm

/-- Where a draft can be written its snapshot has a place. -/
theorem spot_path_of_spot_draftPath {place : Place}
    (reached : disk.spot (draftPath location) = .ok place) :
    ∃ base, disk.spot (path location) = .ok (name :: base) ∧ place = (name ++ ".tmp") :: base := by
  obtain ⟨base, walked, held, rfl⟩ := isFileName_draft.spot_join reached
  refine ⟨base, isFileName_name.spot_join_eq_ok ?_ walked held, rfl⟩
  have fine : Path.faultOf (Path.join location (name ++ ".tmp")) = none :=
    (Disk.spot_eq_ok_iff.mp reached).1
  rw [join_draft] at fine
  exact Path.faultOf_of_append fine

/-- A draft leaves the snapshot as it was. -/
theorem find_of_draft {content : Bytes} (drafted : draft location content disk = .ok changed) :
    changed.find (path location) = disk.find (path location) := by
  have same := Disk.sameDirectories_of_writeFile drafted
  obtain ⟨_, draftPlace, reached, _, _⟩ := Disk.writeFile_eq_ok drafted
  obtain ⟨base, spotted, rfl⟩ := spot_path_of_spot_draftPath reached
  refine Disk.find_congr spotted (same.keeps.spot spotted) (Disk.entryAt_of_writeFile drafted ?_)
  exact fun meet => isFileName_name.ne_of_spot_join isFileName_draft name_ne_draft spotted meet rfl

/-- A location with a draft holds what it held before. -/
theorem load_of_draft {content : Bytes} (drafted : draft location content disk = .ok changed) :
    load location changed = load location disk := by
  have same := find_of_draft drafted
  rw [load, load, Disk.exists?, Disk.exists?, Disk.readFile, Disk.readFile, same]

/-- When a snapshot could not be saved the system said why, no directory has
changed, and the location holds what it held before. -/
theorem saveEntries_eq_error {failure : Failure}
    (failed : saveEntries location entries disk = (.error failure, changed)) :
    (∃ fault, failure = .io fault) ∧ disk.SameDirectories changed ∧
      load location changed = load location disk := by
  rw [saveEntries] at failed
  split at failed
  · rename_i fault refused
    cases failed
    exact ⟨⟨fault, rfl⟩, .refl disk, rfl⟩
  rename_i drafted written
  split at failed
  · rename_i fault refused
    cases failed
    exact ⟨⟨fault, rfl⟩, Disk.sameDirectories_of_writeFile written, load_of_draft written⟩
  · cases failed

/-- A location that is there stays there when its snapshot is saved. -/
theorem exists?_location_of_saveEntries
    (saved : saveEntries location entries disk = (.ok (), changed))
    (there : disk.exists? (.ofText location) = true) :
    changed.exists? (.ofText location) = true := by
  obtain ⟨same, read⟩ := saveEntries_eq_ok saved
  obtain ⟨place, found⟩ := Disk.readFile_eq_ok_iff.mp read
  have spotted := same.adds.spot (Disk.find_eq_ok_iff.mp found).1
  exact isFileName_name.exists?_location spotted same.keeps there

end StoreTrial.SnapshotFile
