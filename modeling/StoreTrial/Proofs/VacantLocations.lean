import StoreTrial.Engine.Opening
import StoreTrial.Proofs.EngineCalls
import StoreTrial.Proofs.SnapshotReplacement

/-! # Vacant locations

A location is vacant when its directory is there and nothing has its name
(`StoreTrial.Location.Vacant`). An engine that is opened there is empty, every save of it succeeds,
and when the location is removed the tree is the one from before
(`StoreTrial.Location.Added.removeTree`).
-/

namespace StoreTrial

namespace Disk

variable {disk : Disk} {place sought : Place}

theorem entryAt_clear (disk : Disk) (place : Place) (stays : Bool) (inner : sought ≠ []) :
    (disk.clear place stays).entryAt sought =
      if !(place.isSuffixOf sought) || (stays && sought == place) then disk.entryAt sought
      else none := by
  cases sought with
  | nil => exact absurd rfl inner
  | cons name rest =>
      exact Lookup.lookup_filter
        (fun other => !(place.isSuffixOf other) || (stays && other == place)) (name :: rest)
        disk.entries

theorem entryAt_clear_of_not_suffix (outside : ¬place <:+ sought) (stays : Bool) :
    (disk.clear place stays).entryAt sought = disk.entryAt sought := by
  rw [← List.isSuffixOf_iff_suffix] at outside
  cases sought with
  | nil => rfl
  | cons name rest => rw [entryAt_clear disk place stays (by simp), if_pos (by simp [outside])]

theorem clear_erase (inside : place <:+ sought) (disk : Disk) :
    (disk.erase sought).clear place false = disk.clear place false := by
  have dropped : place.isSuffixOf sought = true := List.isSuffixOf_iff_suffix.mpr inside
  apply congrArg Disk.mk
  rw [erase, List.filter_filter]
  apply List.filter_congr
  intro item member
  by_cases same : item.1 = sought
  · simp [same, dropped]
  · simp [same]

/-- What is set below a place is cleared with it. -/
theorem clear_set (inside : place <:+ sought) (disk : Disk) (entry : Entry) :
    (disk.set sought entry).clear place false = disk.clear place false := by
  have dropped : place.isSuffixOf sought = true := List.isSuffixOf_iff_suffix.mpr inside
  rw [← clear_erase inside disk]
  apply congrArg Disk.mk
  rw [set, List.filter_cons, if_neg (by simp [dropped])]

theorem clear_clear (disk : Disk) (place : Place) :
    (disk.clear place true).clear place false = disk.clear place false := by
  apply congrArg Disk.mk
  rw [clear, List.filter_filter]
  apply List.filter_congr
  intro item member
  cases place.isSuffixOf item.1 <;> simp

/-- Nothing is cleared where nothing is. -/
theorem clear_of_free (free : ∀ item ∈ disk.entries, ¬place <:+ item.1) :
    disk.clear place false = disk := by
  apply congrArg Disk.mk
  rw [List.filter_eq_self]
  intro item member
  have outside := free item member
  rw [← List.isSuffixOf_iff_suffix] at outside
  simp [outside]

theorem entryAt_of_free (free : ∀ item ∈ disk.entries, ¬place <:+ item.1) (inner : place ≠ [])
    (inside : place <:+ sought) : disk.entryAt sought = none := by
  have deep : sought ≠ [] := by
    rintro rfl
    exact inner (List.suffix_nil.mp inside)
  rw [← clear_of_free free, entryAt_clear disk place false deep, if_neg]
  simp [List.isSuffixOf_iff_suffix.mpr inside]

end Disk

/-- At a place where there is nothing an engine is opened empty, and its location is made. -/
theorem MemoryEngine.openStore_of_free {options : EngineOptions} {disk : Disk} {place : Place}
    (reached : disk.spot (.ofText options.path) = .ok place) (inner : place ≠ [])
    (free : ∀ item ∈ disk.entries, ¬place <:+ item.1) (makes : options.createIfMissing = true) :
    openStore options disk = (.ok (.start options .empty), disk.set place .directory) := by
  have nothing : disk.entryAt place = none := Disk.entryAt_of_free free inner List.suffix_rfl
  have absent : disk.exists? (.ofText options.path) = false := Disk.exists?_of_spot reached nothing
  obtain ⟨_, named, walked⟩ := Disk.spot_eq_ok_iff.mp reached
  have made : disk.makeDirectories (.ofText options.path) =
      (.ok (), disk.set place .directory) := by
    rw [Disk.makeDirectories, Disk.makeChain, if_neg (ne_true_of_eq_false named),
      Disk.makeDirectory_of_spot reached nothing]
  have keeps : disk.KeepsDirectories (disk.set place .directory) :=
    Disk.keepsDirectories_set_directory inner
  have unsaved : (disk.set place .directory).exists? (SnapshotFile.path options.path) = false := by
    rw [Bool.eq_false_iff]
    intro there
    obtain ⟨⟨inside, entry⟩, found⟩ := Disk.exists?_eq_true_iff.mp there
    obtain ⟨spotted, held, _⟩ := Disk.find_eq_ok_iff.mp found
    obtain ⟨base, again, _, rfl⟩ := SnapshotFile.isFileName_name.spot_join spotted
    obtain rfl : place = base := Except.ok.inj ((keeps.walk walked).symm.trans again)
    rw [Disk.entryAt_set disk inner, if_neg (List.cons_ne_self _ _),
      Disk.entryAt_of_free free inner (List.suffix_cons _ _)] at held
    cases held
  rw [openStore, provideLocation, absent, if_neg Bool.false_ne_true, if_pos makes, made]
  dsimp only
  rw [SnapshotFile.load_of_not_exists? unsaved]

namespace Location

/-- A name under which there is nothing in a directory, and under which a snapshot can be saved. -/
structure Vacant (base name : String) (root : Place) (disk : Disk) : Prop where
  directory : disk.find (.ofText base) = .ok (root, .directory)
  named : Path.IsFileName name
  fits : (SnapshotFile.draftPath (Path.join base name)).fault = none
  free : ∀ item ∈ disk.entries, ¬name :: root <:+ item.1

instance (base name : String) (root : Place) (disk : Disk) :
    Decidable (Vacant base name root disk) :=
  decidable_of_iff (disk.find (.ofText base) = .ok (root, .directory) ∧ Path.IsFileName name ∧
      (SnapshotFile.draftPath (Path.join base name)).fault = none ∧
      ∀ item ∈ disk.entries, ¬name :: root <:+ item.1)
    ⟨fun ⟨directory, named, fits, free⟩ => ⟨directory, named, fits, free⟩,
      fun vacant => ⟨vacant.directory, vacant.named, vacant.fits, vacant.free⟩⟩

/-- A tree with a location that was added to another tree. -/
structure Added (base name : String) (root : Place) (start disk : Disk) : Prop where
  vacant : Vacant base name root start
  directory : disk.entryAt (name :: root) = some .directory
  snapshot : disk.entryAt (SnapshotFile.name :: name :: root) ≠ some .directory
  draft : disk.entryAt ((SnapshotFile.name ++ ".tmp") :: name :: root) ≠ some .directory
  others : disk.clear (name :: root) false = start

variable {base name : String} {root : Place} {start disk : Disk}

namespace Vacant

theorem base_ne (vacant : Vacant base name root disk) : base ≠ "" := by
  rintro rfl
  obtain ⟨_, named, _⟩ := Disk.spot_eq_ok_iff.mp (Disk.find_eq_ok_iff.mp vacant.directory).1
  exact absurd named (by decide)

theorem join_ne (vacant : Vacant base name root disk) : Path.join base name ≠ "" := by
  rw [vacant.named.isPiece.join_eq base vacant.base_ne]
  intro same
  have parts := congrArg String.toList same
  simp only [String.toList_append, List.append_eq_nil_iff, String.toList_empty] at parts
  exact vacant.base_ne (String.toList_eq_nil_iff.mp parts.1.1)

theorem fault_location (vacant : Vacant base name root disk) :
    (Path.ofText (Path.join base name)).fault = none := by
  have fits := vacant.fits
  rw [SnapshotFile.draftPath, SnapshotFile.isFileName_draft.isPiece.join_eq _ vacant.join_ne,
    String.append_assoc] at fits
  exact Path.faultOf_of_append fits

theorem fault_snapshot (vacant : Vacant base name root disk) :
    (SnapshotFile.path (Path.join base name)).fault = none := by
  have fits := vacant.fits
  rw [SnapshotFile.draftPath, SnapshotFile.isFileName_draft.isPiece.join_eq _ vacant.join_ne,
    ← String.append_assoc] at fits
  rw [SnapshotFile.path, SnapshotFile.isFileName_name.isPiece.join_eq _ vacant.join_ne]
  exact Path.faultOf_of_append fits

theorem walk (vacant : Vacant base name root disk) :
    disk.walk [] (Path.ofText base).pieces = .ok root ∧ disk.entryAt root = some .directory := by
  obtain ⟨spotted, held, _⟩ := Disk.find_eq_ok_iff.mp vacant.directory
  exact ⟨(Disk.spot_eq_ok_iff.mp spotted).2.2, held⟩

theorem spot (vacant : Vacant base name root disk) :
    disk.spot (.ofText (Path.join base name)) = .ok (name :: root) :=
  vacant.named.spot_join_eq_ok vacant.fault_location vacant.walk.1 vacant.walk.2

theorem entryAt (vacant : Vacant base name root disk) {sought : Place}
    (inside : name :: root <:+ sought) : disk.entryAt sought = none :=
  Disk.entryAt_of_free vacant.free (by simp) inside

end Vacant

namespace Added

theorem keeps (added : Added base name root start disk) : start.KeepsDirectories disk := by
  intro sought held
  by_cases inside : name :: root <:+ sought
  · rw [added.vacant.entryAt inside] at held
    cases held
  · rwa [← added.others, Disk.entryAt_clear_of_not_suffix inside] at held

theorem spot (added : Added base name root start disk) :
    disk.spot (.ofText (Path.join base name)) = .ok (name :: root) :=
  added.keeps.spot added.vacant.spot

theorem find (added : Added base name root start disk) :
    disk.find (.ofText (Path.join base name)) = .ok (name :: root, .directory) :=
  Disk.find_eq_ok_iff.mpr ⟨added.spot, added.directory, fun _ => rfl⟩

theorem spot_file (added : Added base name root start disk) {file : String}
    (named : Path.IsFileName file)
    (fits : (Path.ofText (Path.join (Path.join base name) file)).fault = none) :
    disk.spot (.ofText (Path.join (Path.join base name) file)) = .ok (file :: name :: root) :=
  named.spot_join_eq_ok fits (Disk.spot_eq_ok_iff.mp added.spot).2.2 added.directory

theorem set_file (added : Added base name root start disk) (file : String) (content : Bytes) :
    Added base name root start (disk.set (file :: name :: root) (.file content)) where
  vacant := added.vacant
  directory := by
    rw [Disk.entryAt_set disk (by simp), if_neg (by simp)]
    exact added.directory
  snapshot := by
    rw [Disk.entryAt_set disk (by simp)]
    split
    · simp
    · exact added.snapshot
  draft := by
    rw [Disk.entryAt_set disk (by simp)]
    split
    · simp
    · exact added.draft
  others := (Disk.clear_set (List.suffix_cons _ _) disk _).trans added.others

theorem erase_file (added : Added base name root start disk) (file : String) :
    Added base name root start (disk.erase (file :: name :: root)) where
  vacant := added.vacant
  directory := by
    rw [Disk.entryAt_erase disk (by simp), if_neg (by simp)]
    exact added.directory
  snapshot := by
    rw [Disk.entryAt_erase disk (by simp)]
    split
    · simp
    · exact added.snapshot
  draft := by
    rw [Disk.entryAt_erase disk (by simp)]
    split
    · simp
    · exact added.draft
  others := (Disk.clear_erase (List.suffix_cons _ _) disk).trans added.others

/-- A snapshot can be saved in the location, which stays there. -/
theorem save (added : Added base name root start disk) (store : Store) :
    ∃ changed, SnapshotFile.save (Path.join base name) store disk = (.ok (), changed) ∧
      Added base name root start changed := by
  let content := Snapshot.image store.entries
  -- The draft is written beside the snapshot, and then takes its place.
  let draftPlace := (SnapshotFile.name ++ ".tmp") :: name :: root
  let drafted := disk.set draftPlace (.file content)
  have within : Added base name root start drafted := added.set_file _ _
  have written : SnapshotFile.draft (Path.join base name) content disk = .ok drafted :=
    Disk.writeFile_of_spot
      (added.spot_file SnapshotFile.isFileName_draft added.vacant.fits) added.draft
      (SnapshotFile.isFileName_draft.isPiece.trailing_join _) content
  obtain ⟨place, found⟩ := Disk.find_of_writeFile written
  have moved := Disk.renameFile_of_find found
    (within.spot_file SnapshotFile.isFileName_name added.vacant.fault_snapshot) within.snapshot
  have drawn : place = draftPlace := by
    have again := (Disk.find_eq_ok_iff.mp found).1.symm.trans
      (within.spot_file SnapshotFile.isFileName_draft added.vacant.fits)
    exact Except.ok.inj again
  rw [drawn] at moved
  refine ⟨_, ?_, (within.erase_file (SnapshotFile.name ++ ".tmp")).set_file SnapshotFile.name
    content⟩
  rw [SnapshotFile.save, SnapshotFile.saveEntries, written]
  dsimp only
  rw [SnapshotFile.publish, SnapshotFile.path, moved]

theorem emptied (added : Added base name root start disk) :
    Added base name root start (disk.clear (name :: root) true) where
  vacant := added.vacant
  directory := by
    rw [Disk.entryAt_clear disk _ true (by simp), if_pos (by simp)]
    exact added.directory
  snapshot := by
    rw [Disk.entryAt_clear disk _ true (by simp), if_neg (by simp)]
    simp
  draft := by
    rw [Disk.entryAt_clear disk _ true (by simp), if_neg (by simp)]
    simp
  others := (Disk.clear_clear disk _).trans added.others

/-- When the location is removed its tree is the one that it was added to. -/
theorem removeTree (added : Added base name root start disk) :
    disk.removeTree (.ofText (Path.join base name)) = (.ok (), start) := by
  have last : (Path.ofText (Path.join base name)).pieces.getLast? = some name := by
    rw [added.vacant.named.isPiece.pieces_join, List.getLast?_append]
    rfl
  rw [Disk.removeTree, added.find]
  dsimp only
  -- Emptied of what is below it, the location is found as before.
  rw [Disk.removeEmptied, added.emptied.find]
  dsimp only
  rw [last, if_neg (fun same => added.vacant.named.proper.1 (Option.some.inj same)),
    added.emptied.others]

end Added

/-- An engine that is opened at a vacant location is empty. -/
theorem Vacant.openAt (vacant : Vacant base name root start) (syncWrites : Bool) :
    let options : EngineOptions := { path := Path.join base name, syncWrites := syncWrites }
    ∃ disk, MemoryEngine.openAt (Path.join base name) options start =
        (.ok (.start options .empty), disk) ∧ Added base name root start disk := by
  intro options
  have added : Added base name root start (start.set (name :: root) .directory) := {
    vacant := vacant
    directory := by rw [Disk.entryAt_set start (by simp), if_pos rfl]
    snapshot := by
      rw [Disk.entryAt_set start (by simp), if_neg (by simp),
        vacant.entryAt (List.suffix_cons _ _)]
      simp
    draft := by
      rw [Disk.entryAt_set start (by simp), if_neg (by simp),
        vacant.entryAt (List.suffix_cons _ _)]
      simp
    others := (Disk.clear_set List.suffix_rfl start _).trans (Disk.clear_of_free vacant.free) }
  have reached : start.spot (.ofText options.path) = .ok (name :: root) := vacant.spot
  refine ⟨_, ?_, added⟩
  rw [MemoryEngine.openAt_path options]
  exact MemoryEngine.openStore_of_free reached (List.cons_ne_nil name root) vacant.free rfl

end Location

end StoreTrial
