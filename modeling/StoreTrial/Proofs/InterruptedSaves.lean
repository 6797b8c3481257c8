import StoreTrial.Proofs.EngineSession

/-! # Attempts to save that stop halfway

An attempt to save may stop before the draft is opened, after any number of bytes of it, or before
it is renamed, because the system fails or because the process ends. The snapshot is then what it
was before, and it is all of the new one exactly if the draft was renamed
(`StoreTrial.SnapshotFile.replaced_iff_renamed`). In any case nothing but the snapshot and the draft
has changed (`StoreTrial.SnapshotFile.confined_saveUntil`).
-/

namespace StoreTrial

namespace SnapshotFile

variable {location : String} {disk changed last : Disk} {content : Bytes}
  {entries : List (Bytes × Bytes)}

/-- Nothing has changed in a file tree but the snapshot of a location and its draft. -/
structure Confined (location : String) (disk changed : Disk) : Prop where
  directories : disk.SameDirectories changed
  others : ∀ place, disk.spot (path location) ≠ .ok place →
    disk.spot (draftPath location) ≠ .ok place → changed.entryAt place = disk.entryAt place

theorem Confined.refl (location : String) (disk : Disk) : Confined location disk disk :=
  ⟨.refl disk, fun _ _ _ => rfl⟩

theorem Confined.trans (first : Confined location disk changed)
    (second : Confined location changed last) : Confined location disk last := by
  refine ⟨first.directories.trans second.directories, fun place notSnapshot notDraft => ?_⟩
  rw [second.others place, first.others place notSnapshot notDraft]
  · rwa [Ne, first.directories.spot_eq_ok_iff]
  · rwa [Ne, first.directories.spot_eq_ok_iff]

theorem confined_draft (drafted : draft location content disk = .ok changed) :
    Confined location disk changed :=
  ⟨Disk.sameDirectories_of_writeFile drafted,
    fun _ _ notDraft => Disk.entryAt_of_writeFile drafted notDraft⟩

theorem confined_publish (published : publish location disk = .ok changed) :
    Confined location disk changed :=
  ⟨Disk.sameDirectories_of_renameFile published,
    fun _ notSnapshot notDraft => Disk.entryAt_of_renameFile published notDraft notSnapshot⟩

/-! ## Stopping -/

/-- How far an attempt to save comes. Where it stops a fault is what the system says; a process
that has ended is told nothing. -/
inductive Progress where
  /-- The draft is not opened. -/
  | unopened (fault : DiskFault)
  /-- The draft is opened, which empties it, and takes so many bytes. -/
  | cut (count : Nat) (fault : DiskFault)
  /-- The draft is written and not renamed. -/
  | unrenamed (fault : DiskFault)
  /-- Nothing stops the attempt but the file tree itself. -/
  | finished
  deriving DecidableEq

/-- An attempt that stops after it has written a draft. -/
def stopAfterDraft (fault : DiskFault) (location : String) (content : Bytes) (disk : Disk) :
    Except Failure Unit × Disk :=
  match draft location content disk with
  | .error refused => (.error (.io refused), disk)
  | .ok drafted => (.error (.io fault), drafted)

/-- An attempt to save that comes so far. -/
def saveUntil (progress : Progress) (location : String) (entries : List (Bytes × Bytes))
    (disk : Disk) : Except Failure Unit × Disk :=
  match progress with
  | .unopened fault => (.error (.io fault), disk)
  | .cut count fault => stopAfterDraft fault location ((Snapshot.image entries).take count) disk
  | .unrenamed fault => stopAfterDraft fault location (Snapshot.image entries) disk
  | .finished => saveEntries location entries disk

/-- The draft of the entries was written and then renamed. -/
def Renamed (progress : Progress) (location : String) (entries : List (Bytes × Bytes))
    (disk changed : Disk) : Prop :=
  progress = .finished ∧ ∃ drafted, draft location (Snapshot.image entries) disk = .ok drafted ∧
    publish location drafted = .ok changed

/-- What a stopped attempt leaves: nothing has changed, or a draft was written. -/
theorem stopAfterDraft_eq (fault : DiskFault) (location : String) (content : Bytes) (disk : Disk) :
    ∃ failure left, stopAfterDraft fault location content disk = (.error failure, left) ∧
      (left = disk ∨ draft location content disk = .ok left) := by
  rw [stopAfterDraft]
  split
  · exact ⟨_, disk, rfl, .inl rfl⟩
  · rename_i drafted written
    exact ⟨_, drafted, rfl, .inr written⟩

/-- An attempt fails and leaves the tree as it was or with a draft, or it renames the draft. -/
theorem saveUntil_cases (progress : Progress) (location : String)
    (entries : List (Bytes × Bytes)) (disk : Disk) :
    (∃ failure left, saveUntil progress location entries disk = (.error failure, left) ∧
        (left = disk ∨ ∃ content, draft location content disk = .ok left)) ∨
      ∃ left, saveUntil progress location entries disk = (.ok (), left) ∧
        Renamed progress location entries disk left := by
  cases progress with
  | unopened fault => exact .inl ⟨_, disk, rfl, .inl rfl⟩
  | cut count fault =>
      obtain ⟨failure, left, stopped, kept⟩ :=
        stopAfterDraft_eq fault location ((Snapshot.image entries).take count) disk
      exact .inl ⟨failure, left, stopped, kept.imp_right fun drafted => ⟨_, drafted⟩⟩
  | unrenamed fault =>
      obtain ⟨failure, left, stopped, kept⟩ :=
        stopAfterDraft_eq fault location (Snapshot.image entries) disk
      exact .inl ⟨failure, left, stopped, kept.imp_right fun drafted => ⟨_, drafted⟩⟩
  | finished =>
      rw [saveUntil, saveEntries]
      split
      · exact .inl ⟨_, disk, rfl, .inl rfl⟩
      · rename_i drafted written
        split
        · exact .inl ⟨_, drafted, rfl, .inr ⟨_, written⟩⟩
        · rename_i renamed moved
          exact .inr ⟨renamed, rfl, rfl, drafted, written, moved⟩

theorem saveUntil_of_renamed {progress : Progress}
    (renamed : Renamed progress location entries disk changed) :
    saveUntil progress location entries disk = (.ok (), changed) := by
  obtain ⟨rfl, drafted, written, moved⟩ := renamed
  rw [saveUntil, saveEntries]
  simp only [written, moved]

/-- **A snapshot is replaced as a whole or not at all.** However far an attempt to save comes, the
snapshot is all of the new one if the draft was renamed, and otherwise what it was, or still not
there. The attempt is answered with success exactly if the draft was renamed. -/
theorem replaced_iff_renamed {progress : Progress} {outcome : Except Failure Unit}
    (attempt : saveUntil progress location entries disk = (outcome, changed)) :
    (outcome = .ok () ↔ Renamed progress location entries disk changed) ∧
      (Renamed progress location entries disk changed →
        changed.readFile (path location) = .ok (Snapshot.image entries)) ∧
      (¬Renamed progress location entries disk changed →
        changed.find (path location) = disk.find (path location)) := by
  obtain ⟨failure, left, stopped, kept⟩ | ⟨left, saved, renamed⟩ :=
    saveUntil_cases progress location entries disk
  · cases attempt.symm.trans stopped
    have unrenamed : ¬Renamed progress location entries disk changed := by
      intro renamed
      cases stopped.symm.trans (saveUntil_of_renamed renamed)
    refine ⟨by simp [unrenamed], fun renamed => absurd renamed unrenamed, fun _ => ?_⟩
    obtain rfl | ⟨content, drafted⟩ := kept
    · rfl
    · exact find_of_draft drafted
  · cases attempt.symm.trans saved
    refine ⟨by simp [renamed], fun _ => ?_, fun unrenamed => absurd renamed unrenamed⟩
    obtain ⟨rfl, _⟩ := renamed
    exact (saveEntries_eq_ok saved).2

/-- However far an attempt to save comes, nothing else changes. -/
theorem confined_saveUntil (progress : Progress) (location : String)
    (entries : List (Bytes × Bytes)) (disk : Disk) :
    Confined location disk (saveUntil progress location entries disk).2 := by
  obtain ⟨failure, left, stopped, kept⟩ | ⟨left, saved, _, drafted, written, moved⟩ :=
    saveUntil_cases progress location entries disk
  · rw [stopped]
    obtain rfl | ⟨content, drafted⟩ := kept
    · exact .refl location left
    · exact confined_draft drafted
  · rw [saved]
    exact (confined_draft written).trans (confined_publish moved)

/-- Saving changes nothing but the snapshot and its draft. -/
theorem confined_saveEntries (location : String) (entries : List (Bytes × Bytes)) (disk : Disk) :
    Confined location disk (saveEntries location entries disk).2 :=
  confined_saveUntil .finished location entries disk

end SnapshotFile

end StoreTrial
