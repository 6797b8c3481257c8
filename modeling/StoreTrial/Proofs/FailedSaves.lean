import StoreTrial.Proofs.EngineSession

/-! # Handles whose saving may fail

The system may break off any attempt to save. A broken attempt leaves the snapshot as
it was, while the handle keeps the change it was to save, so that memory and snapshot
part. A handle that saves every change brings them together with its next successful
attempt; a deletion of a key that is no longer in memory attempts nothing, and is
acknowledged although the snapshot may hold the key
(`StoreTrial.Session.acknowledged_change_saved_iff`).
-/

namespace StoreTrial

/-- What becomes of an attempt to save at a location: the entries are written in some
order, or the system breaks the attempt off and leaves the snapshot as it was. -/
inductive SaveAttempt (location : String) where
  | written (order : Enumeration)
  | broken (fault : DiskFault) (leave : Disk → Disk)
      (kept : ∀ disk, SnapshotFile.load location (leave disk) = SnapshotFile.load location disk)

namespace SaveAttempt

variable {location : String}

/-- Saves as the attempt goes. -/
def save (attempt : SaveAttempt location) (target : String) : MemoryEngine.Save Disk :=
  match attempt with
  | written order => order.save target
  | broken fault leave _ => fun _ disk => (.error (.io fault), leave disk)

variable {attempt : SaveAttempt location} {store : Store} {disk changed : Disk}

theorem load_of_save_eq_ok (fits : store.Fits)
    (saved : attempt.save location store disk = (.ok (), changed)) :
    SnapshotFile.load location changed = .ok store := by
  cases attempt with
  | written order => exact SnapshotFile.load_of_saveEntries_eq_ok fits (order.complete store) saved
  | broken fault leave kept => cases saved

theorem save_eq_error {failure : Failure}
    (failed : attempt.save location store disk = (.error failure, changed)) :
    (∃ fault, failure = .io fault) ∧
      SnapshotFile.load location changed = SnapshotFile.load location disk := by
  cases attempt with
  | written order =>
      obtain ⟨system, _, kept⟩ := SnapshotFile.saveEntries_eq_error failed
      exact ⟨system, kept⟩
  | broken fault leave kept =>
      cases failed
      exact ⟨⟨fault, rfl⟩, kept disk⟩

end SaveAttempt

/-- A step that neither opens a handle nor lets go of one. -/
def Step.staysOn : Step → Bool
  | .openHandle _ _ | .drop => false
  | _ => true

/-- A step that stays on the handle and does not close it. -/
def Step.staysOpen (next : Step) : Bool := next.staysOn && next != .call .close

/-- An open handle of a location that saves every change. -/
structure MemoryEngine.IsSyncing (location : String) (engine : MemoryEngine) : Prop where
  path : engine.path = location
  syncWrites : engine.syncWrites = true
  opened : engine.closed = false

namespace MemoryEngine

variable {location : String} {engine called : MemoryEngine} {disk changed : Disk}

/-- A handle that saves every change attempts to save exactly in the calls that alter its
store, and answers with the outcome. In any case it has applied the call to its store. -/
theorem IsSyncing.call (syncing : engine.IsSyncing location) {save : Save Disk}
    {request : Request} (other : request ≠ .close) {result : Except Failure request.Answer}
    (answer : engine.call save disk request = (result, called, changed)) :
    called.IsSyncing location ∧ called.store = request.applied engine.store ∧
      if request.alters engine.store then
        save (request.applied engine.store) disk = (result.map fun _ => (), changed)
      else changed = disk := by
  rw [call_of_open syncing.opened other] at answer
  obtain ⟨rfl, effect⟩ := perform_eq answer
  rw [Request.saves_of_syncWrites syncing.syncWrites other] at effect
  exact ⟨⟨syncing.path, syncing.syncWrites, syncing.opened⟩, rfl, effect⟩

end MemoryEngine

namespace Session

variable {location : String} {engine : MemoryEngine} {disk : Disk}

/-- A step that stays on an open handle leaves it open. If the system does not fail, memory
and snapshot stay together. -/
theorem step_of_isSyncing (syncing : engine.IsSyncing location) (disk : Disk)
    (attempt : SaveAttempt location) {next : Step} (stays : next.staysOpen = true) :
    ∃ called changed, (step attempt.save location ⟨some engine, disk⟩ next).2 =
        ⟨some called, changed⟩ ∧ called.IsSyncing location ∧
      (called.store.Fits →
        (step attempt.save location ⟨some engine, disk⟩ next).1.isSystemFailure = false →
        SnapshotFile.load location disk = .ok engine.store →
        SnapshotFile.load location changed = .ok called.store) := by
  cases next with
  | openHandle syncWrites createIfMissing => cases stays
  | drop => cases stays
  | size => exact ⟨engine, disk, rfl, syncing, fun _ _ held => held⟩
  | isEmpty => exact ⟨engine, disk, rfl, syncing, fun _ _ held => held⟩
  | isClosed => exact ⟨engine, disk, rfl, syncing, fun _ _ held => held⟩
  | call request =>
      have other : request ≠ .close := by
        rintro rfl
        cases stays
      cases answer : engine.call (attempt.save engine.path) disk request with
      | mk result left =>
        obtain ⟨called, changed⟩ := left
        rw [Session.step]
        simp only [answer]
        obtain ⟨next, applied, effect⟩ := syncing.call other answer
        refine ⟨called, changed, rfl, next, fun fits quiet held => ?_⟩
        split at effect
        · rw [syncing.path, ← applied] at effect
          cases result with
          | error failure =>
              obtain ⟨⟨fault, rfl⟩, _⟩ := SaveAttempt.save_eq_error effect
              exact absurd rfl (Observation.failure?_ne_io quiet fault)
          | ok _ => exact SaveAttempt.load_of_save_eq_ok fits effect
        · rename_i unaltered
          rw [effect, applied, Request.applied_of_not_alters (by simpa using unaltered)]
          exact held

/-- Steps that stay on an open handle leave it open. As long as the system does not fail,
memory and snapshot stay together. -/
theorem run_of_isSyncing (syncing : engine.IsSyncing location)
    {turns : List (SaveAttempt location × Step)} (stay : ∀ turn ∈ turns, turn.2.staysOpen = true)
    (fits : FitsAlong SaveAttempt.save location turns ⟨some engine, disk⟩) :
    ∃ current now, after SaveAttempt.save location turns ⟨some engine, disk⟩ = ⟨some current, now⟩ ∧
      current.IsSyncing location ∧
      ((∀ observation ∈ (run SaveAttempt.save location turns ⟨some engine, disk⟩).1,
          observation.isSystemFailure = false) →
        SnapshotFile.load location disk = .ok engine.store →
        SnapshotFile.load location now = .ok current.store) := by
  induction turns generalizing engine disk with
  | nil => exact ⟨engine, disk, rfl, syncing, fun _ held => held⟩
  | cons turn rest ih =>
      obtain ⟨first, others⟩ := List.forall_mem_cons.mp stay
      obtain ⟨called, changed, moved, next, kept⟩ :=
        step_of_isSyncing syncing disk turn.1 first
      have later : FitsAlong SaveAttempt.save location rest
          (step turn.1.save location ⟨some engine, disk⟩ turn.2).2 := fits.2
      rw [moved] at later
      obtain ⟨current, now, reached, last, together⟩ := ih next others later
      refine ⟨current, now, ?_, last, ?_⟩
      · rw [after_cons, moved, reached]
      · rw [observations_cons, moved]
        intro quiet held
        obtain ⟨firstQuiet, othersQuiet⟩ := List.forall_mem_cons.mp quiet
        exact together othersQuiet (kept (later.now called rfl) firstQuiet held)

/-- **When an acknowledged change is saved.** A handle is opened that saves every change,
and is used in any way that does not close it, while attempts to save fail at will.
Afterwards a put or a deletion that is answered with success has been applied to the
memory, and the snapshot is that of the memory exactly if the call altered the memory or
the snapshot was that of the memory before. As long as no attempt has failed it was. -/
theorem acknowledged_change_saved_iff {options : EngineOptions}
    (sync : options.syncWrites = true) {start : Disk}
    (opened : MemoryEngine.openAt location options start = (.ok engine, disk))
    (before : List (SaveAttempt options.path × Step))
    (stay : ∀ turn ∈ before, turn.2.staysOpen = true)
    (fits : FitsAlong SaveAttempt.save options.path before ⟨some engine, disk⟩) :
    ∃ current now,
      after SaveAttempt.save options.path before ⟨some engine, disk⟩ = ⟨some current, now⟩ ∧
      ((∀ observation ∈ (run SaveAttempt.save options.path before ⟨some engine, disk⟩).1,
          observation.isSystemFailure = false) →
        SnapshotFile.load options.path now = .ok current.store) ∧
      ∀ (attempt : SaveAttempt options.path) (request : Request), request.changes = true →
        ∀ (answer : request.Answer) (called : MemoryEngine) (changed : Disk),
        current.call (attempt.save current.path) now request = (.ok answer, called, changed) →
        called.store.Fits →
          called.store = request.applied current.store ∧
          (SnapshotFile.load options.path changed = .ok called.store ↔
            request.alters current.store = true ∨
              SnapshotFile.load options.path now = .ok current.store) := by
  obtain ⟨path, mode, closed, held⟩ := MemoryEngine.eq_of_openAt opened
  have syncing : engine.IsSyncing options.path := ⟨path, mode.trans sync, closed⟩
  obtain ⟨current, now, reached, last, together⟩ := run_of_isSyncing syncing stay fits
  refine ⟨current, now, reached, fun quiet => together quiet held, ?_⟩
  intro attempt request changes answer called changed acknowledged fits
  have other : request ≠ .close := by
    rintro rfl
    cases changes
  obtain ⟨_, applied, effect⟩ := last.call other acknowledged
  refine ⟨applied, ?_⟩
  split at effect
  · rename_i altered
    rw [last.path, ← applied] at effect
    have saved := SaveAttempt.load_of_save_eq_ok fits effect
    simp [altered, saved]
  · rename_i unaltered
    rw [effect, applied, Request.applied_of_not_alters (by simpa using unaltered)]
    simp [unaltered]

/-- After a broken deletion the snapshot is ahead of the memory; a put saves both. -/
theorem acknowledged_change_saved_after_broken_deletion :
    let options : EngineOptions := ⟨"db", true, true⟩
    let engine : MemoryEngine := ⟨"db", true, Store.empty, false⟩
    let disk := (Disk.empty.makeDirectories (.ofText "db")).2
    let before : List (SaveAttempt "db" × Step) := [(.written .byKey, .call (.put [1] [2])),
      (.broken .isDirectory id fun _ => rfl, .call (.delete [1])), (.written .byKey, .size)]
    let now := (after SaveAttempt.save "db" before ⟨some engine, disk⟩).disk
    (options.syncWrites = true ∧
      MemoryEngine.openAt "db" options Disk.empty = (.ok engine, disk) ∧
      (∀ turn ∈ before, turn.2.staysOpen = true) ∧
      FitsAlong SaveAttempt.save "db" before ⟨some engine, disk⟩) ∧
    after SaveAttempt.save "db" before ⟨some engine, disk⟩ = ⟨some engine, now⟩ ∧
      SnapshotFile.load "db" now ≠ .ok engine.store ∧
      ∃ called changed,
        engine.call (Enumeration.byKey.save "db") now (.put [1] [3]) = (.ok (), called, changed) ∧
          SnapshotFile.load "db" changed = .ok called.store := by
  intro options engine disk before now
  have opened : MemoryEngine.openAt "db" options Disk.empty = (.ok engine, disk) := by
    decide +kernel
  have stay : ∀ turn ∈ before, turn.2.staysOpen = true := by decide +kernel
  have fits : FitsAlong SaveAttempt.save "db" before ⟨some engine, disk⟩ := by decide +kernel
  have reached : after SaveAttempt.save "db" before ⟨some engine, disk⟩ = ⟨some engine, now⟩ := by
    decide +kernel
  have parted : SnapshotFile.load "db" now ≠ .ok engine.store := by decide +kernel
  refine ⟨⟨rfl, opened, stay, fits⟩, reached, parted, ?_⟩
  obtain ⟨current, left, same, _, saved⟩ :=
    acknowledged_change_saved_iff rfl opened before stay fits
  cases reached.symm.trans same
  let reply := engine.call (Enumeration.byKey.save "db") now (.put [1] [3])
  have acknowledged : reply = (.ok (), reply.2.1, reply.2.2) := by decide +kernel
  obtain ⟨_, together⟩ := saved (.written .byKey) (.put [1] [3]) rfl () reply.2.1 reply.2.2
    acknowledged (by decide +kernel)
  exact ⟨_, _, acknowledged, together.mpr (.inl rfl)⟩

/-- A deletion that could not be saved and is tried again is acknowledged, and the
location holds what it held before, the key included. -/
theorem load_of_retried_deletion (syncing : engine.IsSyncing location)
    (held : SnapshotFile.load location disk = .ok engine.store) {key : Bytes}
    (present : engine.store.contains key = true) {fault : DiskFault} {leave : Disk → Disk}
    (kept : ∀ disk, SnapshotFile.load location (leave disk) = SnapshotFile.load location disk)
    (retry : SaveAttempt location) :
    let turns := [(.broken fault leave kept, .call (.delete key)), (retry, .call (.delete key))]
    (run SaveAttempt.save location turns ⟨some engine, disk⟩).1 =
        [.answered (.delete key) (.error (.io fault)), .answered (.delete key) (.ok ())] ∧
      SnapshotFile.load location (after SaveAttempt.save location turns ⟨some engine, disk⟩).disk =
        .ok engine.store := by
  let erased : MemoryEngine := { engine with store := engine.store.erase key }
  have gone : erased.store.contains key = false := by
    simp [erased, Store.contains, Store.get?_erase]
  have first : engine.call ((SaveAttempt.broken fault leave kept).save engine.path) disk
      (.delete key) = (.error (.io fault), erased, leave disk) := by
    rw [MemoryEngine.call_of_open syncing.opened (by simp), MemoryEngine.perform, if_pos present,
      MemoryEngine.keep_of_syncWrites syncing.syncWrites]
    rfl
  have second : erased.call (retry.save erased.path) (leave disk) (.delete key) =
      (.ok (), erased, leave disk) := by
    have opened : erased.closed = false := syncing.opened
    rw [MemoryEngine.call_of_open opened (by simp), MemoryEngine.perform, if_neg (by simp [gone])]
  simp only [after, run, step, first, second]
  exact ⟨trivial, (kept disk).trans held⟩

/-- The acknowledgement of a deletion does not mean that it is saved: the first attempt
finds a directory in the place of the draft, the second attempt is answered with success. -/
theorem acknowledged_deletion_not_saved :
    let turns : List (SaveAttempt "db" × Step) := [(.written .byKey, .openHandle true true),
      (.written .byKey, .call (.put [107] [118])),
      (.broken .isDirectory id fun _ => rfl, .call (.delete [107])),
      (.written .byKey, .call (.delete [107]))]
    let (observations, last) := run SaveAttempt.save "db" turns ⟨none, Disk.empty⟩
    observations.map Observation.failure? = [none, none, some (.io .isDirectory), none] ∧
      last.handle = some ⟨"db", true, Store.empty, false⟩ ∧
      SnapshotFile.load "db" last.disk = .ok (Store.empty.insert [107] [118]) := by
  decide +kernel

end Session

end StoreTrial
