import StoreTrial.Proofs.ConfinedRuns

/-! # Locations of opened handles

A handle is opened at whatever its path leads to, and a directory is made only where there is
nothing. The location is a directory then, unless the path leads to a file or names nothing. In a
location that is no file no attempt to save fails for want of a directory; in one that is a file
every attempt does, and what was done with the handle is lost
(`StoreTrial.Session.opened_location_isDirectory_iff`).
-/

namespace StoreTrial

namespace Disk

variable {disk changed : Disk} {path : Path} {place : Place} {fault : DiskFault} {content : Bytes}

/-- The path leads to a file. -/
def HoldsFile (disk : Disk) (path : Path) : Prop :=
  ∃ place content, disk.find path = .ok (place, .file content)

instance (disk : Disk) (path : Path) : Decidable (disk.HoldsFile path) :=
  match found : disk.find path with
  | .ok (place, .file content) => isTrue ⟨place, content, found⟩
  | .ok (place, .directory) => isFalse (by simp [HoldsFile, found])
  | .error fault => isFalse (by simp [HoldsFile, found])

/-- The pieces of the path lead to a directory. Without pieces that is the root. -/
def RestsOn (disk : Disk) (path : Path) : Prop :=
  ∃ root, disk.walk [] path.pieces = .ok root ∧ disk.entryAt root = some .directory

theorem SameDirectories.restsOn (same : disk.SameDirectories changed) (rests : disk.RestsOn path) :
    changed.RestsOn path := by
  obtain ⟨root, walked, held⟩ := rests
  exact ⟨root, same.keeps.walk walked, same.keeps root held⟩

theorem restsOn_of_isDirectory (held : disk.isDirectory path = true) : disk.RestsOn path := by
  obtain ⟨root, found⟩ := isDirectory_eq_true_iff.mp held
  obtain ⟨reached, held, _⟩ := find_eq_ok_iff.mp found
  exact ⟨root, (spot_eq_ok_iff.mp reached).2.2, held⟩

/-- What is at a path is a directory or a file. -/
theorem exists?_eq_true_iff_or :
    disk.exists? path = true ↔ disk.isDirectory path = true ∨ disk.HoldsFile path := by
  rw [exists?_eq_true_iff, isDirectory_eq_true_iff]
  constructor
  · rintro ⟨⟨place, entry⟩, found⟩
    cases entry with
    | directory => exact .inl ⟨place, found⟩
    | file content => exact .inr ⟨place, content, found⟩
  · rintro (⟨place, found⟩ | ⟨place, content, found⟩)
    · exact ⟨_, found⟩
    · exact ⟨_, found⟩

theorem HoldsFile.not_isDirectory (file : disk.HoldsFile path) : disk.isDirectory path = false := by
  obtain ⟨place, content, found⟩ := file
  rw [isDirectory, found]

/-- A file that has a place is not written only if a directory is there. -/
theorem eq_isDirectory_of_writeFile (reached : disk.spot path = .ok place)
    (unended : path.trailing = false) (failed : disk.writeFile path content = .error fault) :
    fault = .isDirectory := by
  by_cases taken : disk.entryAt place = some .directory
  · rw [writeFile, reached] at failed
    simp only [bind, Except.bind, taken] at failed
    exact (Except.error.inj failed).symm
  · cases failed.symm.trans (writeFile_of_spot reached taken unended content)

/-- A file is not moved to a place only if a directory is there. -/
theorem eq_isDirectory_of_renameFile {source : Path} {destination : Place}
    (found : disk.find source = .ok (place, .file content))
    (reached : disk.spot path = .ok destination)
    (failed : disk.renameFile source path = .error fault) : fault = .isDirectory := by
  by_cases taken : disk.entryAt destination = some .directory
  · rw [renameFile, found] at failed
    simp only [bind, Except.bind, reached, taken] at failed
    exact (Except.error.inj failed).symm
  · cases failed.symm.trans (renameFile_of_find found reached taken)

end Disk

/-- The failure says that there is no directory where one is needed. -/
def Failure.missesDirectory : Failure → Bool
  | .io .notDirectory | .io .noEntry => true
  | _ => false

/-- A path is never refused for want of a directory. -/
theorem Path.missesDirectory_of_faultOf {text : String} {fault : DiskFault}
    (refused : faultOf text = some fault) : (Failure.io fault).missesDirectory = false := by
  rw [faultOf] at refused
  split at refused
  · cases refused
    rfl
  · split at refused
    · cases refused
      rfl
    · cases refused

namespace SnapshotFile

variable {location : String} {entries : List (Bytes × Bytes)} {disk changed : Disk}
  {failure : Failure}

/-- In a directory a snapshot cannot be saved only because its path is refused, or because a
directory has the name of a file. -/
theorem missesDirectory_of_saveEntries (rests : disk.RestsOn (.ofText location))
    (failed : saveEntries location entries disk = (.error failure, changed)) :
    failure.missesDirectory = false := by
  obtain ⟨root, walked, held⟩ := rests
  cases refused : (draftPath location).fault with
  | some fault =>
      have lost : disk.spot (draftPath location) = .error fault := by rw [Disk.spot, refused]
      have undrafted : draft location (Snapshot.image entries) disk = .error fault := by
        rw [draft, Disk.writeFile, lost]
        rfl
      rw [saveEntries, undrafted] at failed
      cases failed
      exact Path.missesDirectory_of_faultOf refused
  | none =>
      have reached : disk.spot (draftPath location) = .ok ((name ++ ".tmp") :: root) :=
        isFileName_draft.spot_join_eq_ok refused walked held
      rw [saveEntries] at failed
      split at failed
      · rename_i fault undrafted
        cases failed
        obtain rfl := Disk.eq_isDirectory_of_writeFile reached
          (isFileName_draft.isPiece.trailing_join location) undrafted
        rfl
      · rename_i drafted written
        split at failed
        · rename_i fault unpublished
          cases failed
          obtain ⟨place, found⟩ := Disk.find_of_writeFile written
          obtain ⟨base, spotted, _⟩ := spot_path_of_spot_draftPath reached
          have there := (Disk.sameDirectories_of_writeFile written).keeps.spot spotted
          obtain rfl := Disk.eq_isDirectory_of_renameFile found there unpublished
          rfl
        · cases failed

/-- In a file nothing is saved, for want of a directory. -/
theorem saveEntries_of_holdsFile (file : disk.HoldsFile (.ofText location))
    (fits : (draftPath location).fault = none) (entries : List (Bytes × Bytes)) :
    saveEntries location entries disk = (.error (.io .notDirectory), disk) := by
  obtain ⟨place, content, found⟩ := file
  obtain ⟨reached, held, _⟩ := Disk.find_eq_ok_iff.mp found
  have walked : disk.walk [] (Path.ofText location).pieces = .ok place :=
    (Disk.spot_eq_ok_iff.mp reached).2.2
  have pieces : (draftPath location).pieces = (Path.ofText location).pieces ++ [name ++ ".tmp"] :=
    isFileName_draft.isPiece.pieces_join location
  have named : ¬(draftPath location).isEmpty = true := by simp [Path.isEmpty, pieces]
  have lost : disk.spot (draftPath location) = .error .notDirectory := by
    rw [Disk.spot, fits]
    dsimp only
    rw [if_neg named, pieces, Disk.walk_append, walked]
    simp only [bind, Except.bind, Disk.walk, Disk.requireDirectory, held]
  have undrafted : draft location (Snapshot.image entries) disk = .error .notDirectory := by
    rw [draft, Disk.writeFile, lost]
    rfl
  rw [saveEntries, undrafted]

end SnapshotFile

namespace MemoryEngine

variable {engine called : MemoryEngine} {options : EngineOptions} {start disk : Disk}

/-- When a handle is opened there is something at its location, or directories are made up to it. -/
theorem provided_of_openStore (opened : openStore options start = (.ok engine, disk)) :
    start.exists? (.ofText options.path) = true ∧ disk = start ∨
      start.exists? (.ofText options.path) = false ∧
        start.makeDirectories (.ofText options.path) = (.ok (), disk) := by
  have provided : provideLocation options start = (.ok (), disk) := by
    rw [openStore] at opened
    split at opened
    · cases opened
    · rename_i left provided
      split at opened
      · cases opened
      · rw [provided, (Prod.mk.inj opened).2]
  rw [provideLocation] at provided
  split at provided
  · rename_i there
    exact .inl ⟨there, (Prod.mk.inj provided).2.symm⟩
  · rename_i absent
    refine .inr ⟨by simpa using absent, ?_⟩
    split at provided
    · split at provided
      · rename_i made
        rw [made, (Prod.mk.inj provided).2]
      · cases provided
    · cases provided

/-- Only a handle that is opened at a file, or at nothing, has no directory. -/
theorem isDirectory_of_openStore_iff (opened : openStore options start = (.ok engine, disk)) :
    disk.isDirectory (.ofText options.path) = true ↔
      options.path ≠ "" ∧ ¬start.HoldsFile (.ofText options.path) := by
  rw [ne_eq, ← Path.isEmpty_ofText_iff]
  obtain ⟨there, rfl⟩ | ⟨absent, made⟩ := provided_of_openStore opened
  · have named : ¬(Path.ofText options.path).isEmpty = true := by
      intro unnamed
      rw [Disk.exists?_of_isEmpty unnamed] at there
      cases there
    constructor
    · intro held
      refine ⟨named, fun file => ?_⟩
      rw [file.not_isDirectory] at held
      cases held
    · rintro ⟨_, plain⟩
      exact (Disk.exists?_eq_true_iff_or.mp there).resolve_right plain
  · have plain : ¬start.HoldsFile (.ofText options.path) := by
      intro file
      rw [Disk.exists?_eq_true_iff_or.mpr (.inr file)] at absent
      cases absent
    cases named : (Path.ofText options.path).isEmpty with
    | true =>
        rw [Disk.makeDirectories_of_isEmpty named] at made
        obtain rfl := (Prod.mk.inj made).2
        simp only [not_true_eq_false, false_and, iff_false]
        intro held
        rw [Disk.exists?_of_isDirectory held] at absent
        cases absent
    | false => simp [plain, Disk.isDirectory_of_makeDirectories named made]

/-- A handle that is not opened at a file can save in a directory. -/
theorem restsOn_of_openStore (opened : openStore options start = (.ok engine, disk))
    (plain : ¬start.HoldsFile (.ofText options.path)) : disk.RestsOn (.ofText options.path) := by
  by_cases unnamed : options.path = ""
  · rw [unnamed]
    exact ⟨[], rfl, rfl⟩
  · exact Disk.restsOn_of_isDirectory
      ((isDirectory_of_openStore_iff opened).mpr ⟨unnamed, plain⟩)

/-- A store refuses to answer only what it does not hold. -/
theorem eq_notFound_of_answered {store : Store} {request : Request} {failure : Failure}
    (refused : request.answered store = .error failure) : failure = .notFound := by
  cases request with
  | get key =>
      rw [Request.answered] at refused
      split at refused
      · cases refused
      · exact (Except.error.inj refused).symm
  | put key value | delete key | contains key | close => cases refused

/-- A call fails on a closed handle, for an absent key, or because saving does. -/
theorem cause_of_call_eq_error {μ : Type} {save : Save μ} {medium changed : μ} {request : Request}
    {failure : Failure}
    (answer : engine.call save medium request = (.error failure, called, changed)) :
    failure = .closed ∨ failure = .notFound ∨
      save (request.applied engine.store) medium = (.error failure, changed) := by
  cases closed : engine.closed with
  | true =>
      rw [call_of_closed save closed] at answer
      cases answer
      exact .inl rfl
  | false =>
      by_cases closing : request = .close
      · subst closing
        rw [call_close_of_open closed] at answer
        obtain ⟨failed, left⟩ := Prod.mk.inj answer
        exact .inr (.inr (Prod.ext failed (Prod.mk.inj left).2))
      · rw [call_of_open closed closing] at answer
        cases saves : request.saves engine with
        | true =>
            obtain ⟨_, effect⟩ := perform_eq answer
            rw [if_pos saves] at effect
            exact .inr (.inr effect)
        | false =>
            rw [perform_of_not_saves saves] at answer
            exact .inr (.inl (eq_notFound_of_answered (Prod.mk.inj answer).1))

theorem eq_closed_of_size {failure : Failure} (refused : engine.size = .error failure) :
    failure = .closed := by
  rw [size, requireOpen] at refused
  split at refused
  · exact (Except.error.inj refused).symm
  · cases refused

theorem eq_closed_of_isEmpty {failure : Failure} (refused : engine.isEmpty = .error failure) :
    failure = .closed := by
  rw [isEmpty] at refused
  cases asked : engine.size with
  | ok count =>
      rw [asked] at refused
      cases refused
  | error cause =>
      rw [asked] at refused
      obtain rfl := Except.error.inj refused
      exact eq_closed_of_size asked

/-- A call that saves fails where saving does. -/
theorem call_of_saves {μ : Type} {save : Save μ} {medium : μ} {request : Request}
    {failure : Failure} (opened : engine.closed = false) (saves : request.saves engine = true)
    (failing : ∀ store, (save store medium).1 = .error failure) :
    (engine.call save medium request).1 = .error failure := by
  by_cases closing : request = .close
  · subst closing
    rw [call_close_of_open opened]
    exact failing engine.store
  · rw [call_of_open opened closing]
    cases answer : engine.perform save medium request with
    | mk result left =>
        obtain ⟨_, effect⟩ := perform_eq answer
        rw [if_pos saves] at effect
        have failed : result.map (fun _ => ()) = .error failure :=
          (congrArg Prod.fst effect).symm.trans (failing _)
        cases result with
        | ok _ => cases failed
        | error cause => exact congrArg _ (Except.error.inj failed)

end MemoryEngine

namespace Session

variable {engine : MemoryEngine} {disk : Disk} {location : String} {property : Disk → Prop}
  {allowed : Failure → Prop}

/-- Where the files have the property, an attempt to save keeps it, and has no failures but the
allowed ones. -/
def SavesWithin (location : String) (property : Disk → Prop) (allowed : Failure → Prop) : Prop :=
  ∀ (order : Enumeration) (store : Store) (disk changed : Disk) (outcome : Except Failure Unit),
    property disk → order.save location store disk = (outcome, changed) →
      property changed ∧ ∀ failure, outcome = .error failure → allowed failure

/-- A failure that is told of is of a kind that has nothing to do with saving, or allowed. -/
def TellsWithin (allowed : Failure → Prop) (observation : Observation) : Prop :=
  ∀ failure, observation.failure? = some failure →
    failure = .closed ∨ failure = .notFound ∨ allowed failure

theorem step_within (within : SavesWithin engine.path property allowed) (holds : property disk)
    (order : Enumeration) (location : String) {next : Step} (stays : next.staysOn = true) :
    ∃ called changed, (step order.save location ⟨some engine, disk⟩ next).2 =
        ⟨some called, changed⟩ ∧ called.path = engine.path ∧ property changed ∧
      TellsWithin allowed (step order.save location ⟨some engine, disk⟩ next).1 := by
  cases next with
  | openHandle syncWrites createIfMissing => cases stays
  | drop => cases stays
  | size =>
      refine ⟨engine, disk, rfl, rfl, holds, fun failure told => .inl ?_⟩
      change (Observation.sized engine.size).failure? = some failure at told
      cases asked : engine.size with
      | ok count =>
          rw [asked] at told
          cases told
      | error cause =>
          rw [asked] at told
          exact Option.some.inj told ▸ MemoryEngine.eq_closed_of_size asked
  | isEmpty =>
      refine ⟨engine, disk, rfl, rfl, holds, fun failure told => .inl ?_⟩
      change (Observation.emptiness engine.isEmpty).failure? = some failure at told
      cases asked : engine.isEmpty with
      | ok answer =>
          rw [asked] at told
          cases told
      | error cause =>
          rw [asked] at told
          exact Option.some.inj told ▸ MemoryEngine.eq_closed_of_isEmpty asked
  | isClosed => exact ⟨engine, disk, rfl, rfl, holds, fun failure told => by cases told⟩
  | call request =>
      cases answer : engine.call (order.save engine.path) disk request with
      | mk result left =>
          obtain ⟨called, changed⟩ := left
          rw [step]
          simp only [answer]
          refine ⟨called, changed, rfl, (MemoryEngine.medium_of_call answer).1.1, ?_, ?_⟩
          · obtain ⟨_, rfl | ⟨_, rfl⟩⟩ := MemoryEngine.medium_of_call answer
            · exact holds
            · exact (within order _ disk _ _ holds rfl).1
          · intro failure told
            cases result with
            | ok _ => cases told
            | error cause =>
                obtain rfl : cause = failure := Option.some.inj told
                have causes := MemoryEngine.cause_of_call_eq_error answer
                exact causes.imp_right fun other => other.imp_right fun failed =>
                  (within order _ disk _ _ holds failed).2 _ rfl

/-- Whatever is done with a handle whose attempts to save keep a property of the files, the files
keep it, and nothing else fails but what is allowed to those attempts. -/
theorem run_within (within : SavesWithin engine.path property allowed) (holds : property disk)
    (location : String) {turns : List (Enumeration × Step)}
    (stay : ∀ turn ∈ turns, turn.2.staysOn = true) :
    ∃ current now, after Enumeration.save location turns ⟨some engine, disk⟩ =
        ⟨some current, now⟩ ∧ current.path = engine.path ∧ property now ∧
      ∀ observation ∈ (run Enumeration.save location turns ⟨some engine, disk⟩).1,
        TellsWithin allowed observation := by
  induction turns generalizing engine disk with
  | nil => exact ⟨engine, disk, rfl, rfl, holds, by simp [run]⟩
  | cons turn rest ih =>
      obtain ⟨first, others⟩ := List.forall_mem_cons.mp stay
      obtain ⟨called, changed, moved, same, kept, told⟩ :=
        step_within within holds turn.1 location first
      obtain ⟨current, now, reached, still, last, later⟩ := ih (same ▸ within) kept others
      refine ⟨current, now, ?_, still.trans same, last, ?_⟩
      · rw [after_cons, moved, reached]
      · rw [observations_cons, moved]
        exact List.forall_mem_cons.mpr ⟨told, later⟩

/-- Attempts to save in a directory make and take away none, and do not fail for want of one. -/
theorem savesWithin_of_restsOn (location : String) (start : Disk) :
    SavesWithin location
      (fun disk => disk.RestsOn (.ofText location) ∧ start.SameDirectories disk)
      fun failure => failure.missesDirectory = false := by
  rintro order store disk changed outcome ⟨rests, same⟩ saved
  have kept : disk.SameDirectories changed := by
    cases outcome with
    | ok _ => exact (SnapshotFile.saveEntries_eq_ok saved).1
    | error failure => exact (SnapshotFile.saveEntries_eq_error saved).2.1
  refine ⟨⟨kept.restsOn rests, same.trans kept⟩, ?_⟩
  rintro failure rfl
  exact SnapshotFile.missesDirectory_of_saveEntries rests saved

/-- Attempts to save in a file change nothing. -/
theorem savesWithin_of_holdsFile {start : Disk} (file : start.HoldsFile (.ofText location))
    (fits : (SnapshotFile.draftPath location).fault = none) :
    SavesWithin location (· = start) (· = .io .notDirectory) := by
  rintro order store _ changed outcome rfl saved
  cases (SnapshotFile.saveEntries_of_holdsFile file fits (order.listing store)).symm.trans saved
  exact ⟨rfl, fun failure failed => (Except.error.inj failed).symm⟩

/-- **The location of an opened handle is a directory unless there was a file.** More exactly it is
one if its path names anything and led to no file. Whatever is done with the handle then, and also
if its path names nothing, no attempt to save fails for want of a directory, and the location stays
what it is. Where a file was, every attempt to save fails for want of a directory, that on closing
the handle among them, and the files stay as they were; only a path that is too long for a draft is
refused before that. -/
theorem opened_location_isDirectory_iff {options : EngineOptions} {start : Disk}
    (opened : MemoryEngine.openStore options start = (.ok engine, disk) ∨
      ∃ location, MemoryEngine.openAt location options start = (.ok engine, disk)) :
    let location := Path.ofText options.path
    (disk.isDirectory location = true ↔ options.path ≠ "" ∧ ¬start.HoldsFile location) ∧
    ∀ turns : List (Enumeration × Step), (∀ turn ∈ turns, turn.2.staysOn = true) →
      let (observations, last) := run Enumeration.save options.path turns ⟨some engine, disk⟩
      (¬start.HoldsFile location →
        (∀ observation ∈ observations, ∀ failure, observation.failure? = some failure →
          failure.missesDirectory = false) ∧
        last.disk.isDirectory location = disk.isDirectory location) ∧
      (start.HoldsFile location → (SnapshotFile.draftPath options.path).fault = none →
        last.disk = start ∧ ∃ current, last.handle = some current ∧
          ∀ (order : Enumeration) (request : Request), current.closed = false →
            request.saves current = true →
            (current.call (order.save current.path) start request).1 =
              .error (.io .notDirectory)) := by
  have opened : MemoryEngine.openStore options start = (.ok engine, disk) := by
    rcases opened with plainly | ⟨location, matching⟩
    · exact plainly
    · rw [MemoryEngine.openAt] at matching
      split at matching
      · exact matching
      · cases matching
  obtain ⟨path, _, _, _⟩ := MemoryEngine.eq_of_openStore opened
  refine ⟨MemoryEngine.isDirectory_of_openStore_iff opened, fun turns stay => ⟨?_, ?_⟩⟩
  · intro plain
    have rests := MemoryEngine.restsOn_of_openStore opened plain
    rw [← path] at rests ⊢
    obtain ⟨current, now, reached, _, ⟨_, same⟩, told⟩ :=
      run_within (savesWithin_of_restsOn engine.path disk) ⟨rests, .refl disk⟩ engine.path stay
    refine ⟨fun observation member failure failed => ?_, ?_⟩
    · rcases told observation member failure failed with rfl | rfl | allowed
      · rfl
      · rfl
      · exact allowed
    · rw [after] at reached
      rw [reached]
      exact same.isDirectory_eq _
  · intro file fits
    obtain rfl : disk = start := by
      obtain ⟨_, same⟩ | ⟨absent, _⟩ := MemoryEngine.provided_of_openStore opened
      · exact same
      · rw [Disk.exists?_eq_true_iff_or.mpr (.inr file)] at absent
        cases absent
    rw [← path] at file fits ⊢
    obtain ⟨current, now, reached, still, rfl, _⟩ :=
      run_within (savesWithin_of_holdsFile file fits) rfl engine.path stay
    rw [after] at reached
    rw [reached]
    refine ⟨rfl, current, rfl, fun order request unclosed saves => ?_⟩
    refine MemoryEngine.call_of_saves unclosed saves fun store => ?_
    rw [still, Enumeration.save, SnapshotFile.saveEntries_of_holdsFile file fits]

/-- A location that is made and one that is a file, each with a put and a close. -/
theorem opened_location_isDirectory_iff_made_or_file :
    let options : EngineOptions := { path := "db" }
    let engine : MemoryEngine := .start options .empty
    let file := Disk.empty.set ["db"] (.file [1])
    let made := (Disk.empty.makeDirectories (.ofText "db")).2
    let put : List (Enumeration × Step) := [(.byKey, .call (.put [107] [118]))]
    let close : List (Enumeration × Step) := [(.byKey, .call .close)]
    (MemoryEngine.openStore options Disk.empty = (.ok engine, made) ∧
      MemoryEngine.openStore options file = (.ok engine, file)) ∧
    (made.isDirectory (.ofText "db") = true ∧
      (after Enumeration.save "db" (put ++ close) ⟨some engine, made⟩).disk.isDirectory
        (.ofText "db") = true) ∧
    ¬file.isDirectory (.ofText "db") = true ∧
      ∃ current, (after Enumeration.save "db" put ⟨some engine, file⟩).handle = some current ∧
        (current.call (Enumeration.byKey.save current.path) file .close).1 =
          .error (.io .notDirectory) := by
  intro options engine file made put close
  have fresh : MemoryEngine.openStore options Disk.empty = (.ok engine, made) := by decide +kernel
  have plain : MemoryEngine.openStore options file = (.ok engine, file) := by decide +kernel
  have held : file.HoldsFile (.ofText "db") := by decide +kernel
  obtain ⟨directory, within⟩ := opened_location_isDirectory_iff (.inl fresh)
  obtain ⟨noDirectory, without⟩ := opened_location_isDirectory_iff (.inl plain)
  have there := directory.mpr ⟨by decide, by decide +kernel⟩
  have stays (turns : List (Enumeration × Step)) (stay : ∀ turn ∈ turns, turn.2.staysOn = true) :
      (run Enumeration.save "db" turns ⟨some engine, made⟩).2.disk.isDirectory (.ofText "db") =
        made.isDirectory (.ofText "db") :=
    ((within turns stay).1 (by decide +kernel)).2
  obtain ⟨_, current, left, failing⟩ := (without put (by decide +kernel)).2 held (by decide +kernel)
  have unclosed : current.closed = false := by
    have shown : (after Enumeration.save "db" put ⟨some engine, file⟩).handle.map (·.closed) =
        some false := by decide +kernel
    exact Option.some.inj ((congrArg _ left).symm.trans shown)
  have still := (stays (put ++ close) (by decide +kernel)).trans there
  refine ⟨⟨fresh, plain⟩, ⟨there, still⟩, fun held => ?_, current, left,
    failing .byKey .close unclosed rfl⟩
  exact absurd (noDirectory.mp held).2 (by decide +kernel)

/-- A handle is opened at a file. What is put into it is acknowledged, and cannot be saved when the
handle is closed, although the location is as it was. -/
theorem opened_at_file_not_saved :
    let options : EngineOptions := { path := "db" }
    let file := Disk.empty.set ["db"] (.file [1])
    let engine : MemoryEngine := .start options .empty
    let turns : List (Enumeration × Step) :=
      [(.byKey, .call (.put [107] [118])), (.byKey, .call .close)]
    let (observations, last) := run Enumeration.save "db" turns ⟨some engine, file⟩
    MemoryEngine.openAt "db" options file = (.ok engine, file) ∧
      file.isDirectory (.ofText "db") = false ∧
      observations = [.answered (.put [107] [118]) (.ok ()),
        .answered .close (.error (.io .notDirectory))] ∧
      last.disk = file := by
  decide +kernel

end Session

end StoreTrial
