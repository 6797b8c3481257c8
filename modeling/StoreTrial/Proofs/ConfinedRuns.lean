import StoreTrial.Proofs.FailedSaves
import StoreTrial.Proofs.InterruptedSaves
import StoreTrial.Proofs.SharedHandle

/-! # Files that handles leave alone

Whatever is done with a handle, by one holder or by several at once and however far its attempts to
save come, nothing but the snapshot of its location and the draft of it ever changes. What only asks
changes no file at all, and neither does a change that a handle is not to save before it is closed
(`StoreTrial.Session.replaces_whole_and_only_snapshot`).
-/

namespace StoreTrial

/-- A call in which a handle never saves. -/
def Request.keepsFiles (syncWrites : Bool) : Request → Bool
  | put _ _ | delete _ => !syncWrites
  | get _ | contains _ => true
  | close => false

/-- A step that never makes a handle save. -/
def Step.keepsFiles (syncWrites : Bool) : Step → Bool
  | openHandle _ _ => false
  | call request => request.keepsFiles syncWrites
  | size | isEmpty | isClosed | drop => true

theorem Request.saves_of_keepsFiles {engine : MemoryEngine} {request : Request}
    (keeps : request.keepsFiles engine.syncWrites = true) : request.saves engine = false := by
  cases request with
  | put key value | delete key =>
      have lazy : engine.syncWrites = false := by simpa [keepsFiles] using keeps
      exact saves_of_not_syncWrites lazy (by simp)
  | get key | contains key => exact saves_of_isReading rfl engine
  | close => cases keeps

namespace MemoryEngine

variable {μ : Type} {save : Save μ} {engine called : MemoryEngine} {medium changed : μ}
  {request : Request} {result : Except Failure request.Answer}

/-- When a call is performed the medium stays as it is, or the call saves its store. -/
theorem medium_of_perform (answer : engine.perform save medium request = (result, called, changed)) :
    changed = medium ∨
      request.saves engine = true ∧ changed = (save (request.applied engine.store) medium).2 := by
  obtain ⟨_, effect⟩ := perform_eq answer
  split at effect
  · rename_i saves
    exact .inr ⟨saves, by rw [effect]⟩
  · exact .inl effect

/-- A handle stays at its location and in its mode, and changes the medium by saving only. -/
theorem medium_of_call (answer : engine.call save medium request = (result, called, changed)) :
    (called.path = engine.path ∧ called.syncWrites = engine.syncWrites) ∧
      (changed = medium ∨
        request.saves engine = true ∧ changed = (save (request.applied engine.store) medium).2) := by
  cases closed : engine.closed with
  | true =>
      rw [call_of_closed save closed] at answer
      cases answer
      exact ⟨⟨rfl, rfl⟩, .inl rfl⟩
  | false =>
      by_cases closing : request = .close
      · subst closing
        rw [call_close_of_open closed] at answer
        cases answer
        exact ⟨⟨rfl, rfl⟩, .inr ⟨Request.saves_close engine, rfl⟩⟩
      · rw [call_of_open closed closing] at answer
        refine ⟨?_, medium_of_perform answer⟩
        obtain ⟨rfl, _⟩ := perform_eq answer
        exact ⟨rfl, rfl⟩

end MemoryEngine

/-- How an attempt to save goes: the order of the entries, and how far it comes. -/
structure SaveCourse where
  order : Enumeration
  progress : SnapshotFile.Progress

/-- Saves as the course goes. -/
def SaveCourse.save (course : SaveCourse) (target : String) : MemoryEngine.Save Disk :=
  fun store disk =>
    SnapshotFile.saveUntil course.progress target (course.order.listing store) disk

namespace Session

open SnapshotFile (Confined)

variable {location : String} {engine : MemoryEngine} {disk : Disk}

/-- A step on a handle leaves it where it is, and changes no other files than the handle saves. -/
theorem step_confined (location : String) (course : SaveCourse) (engine : MemoryEngine) (disk : Disk)
    {next : Step} (stays : next.staysOn = true) :
    ∃ called changed, (step course.save location ⟨some engine, disk⟩ next).2 =
        ⟨some called, changed⟩ ∧
      (called.path = engine.path ∧ called.syncWrites = engine.syncWrites) ∧
      Confined engine.path disk changed ∧
      (next.keepsFiles engine.syncWrites = true → changed = disk) := by
  cases next with
  | openHandle syncWrites createIfMissing => cases stays
  | drop => cases stays
  | size | isEmpty | isClosed =>
      exact ⟨engine, disk, rfl, ⟨rfl, rfl⟩, .refl engine.path disk, fun _ => rfl⟩
  | call request =>
      cases answer : engine.call (course.save engine.path) disk request with
      | mk result left =>
          obtain ⟨called, changed⟩ := left
          refine ⟨called, changed, by rw [step]; simp only [answer], ?_⟩
          obtain ⟨same, rfl | ⟨saves, rfl⟩⟩ := MemoryEngine.medium_of_call answer
          · exact ⟨same, .refl engine.path changed, fun _ => rfl⟩
          · refine ⟨same, SnapshotFile.confined_saveUntil .., fun keeps => ?_⟩
            cases saves.symm.trans (Request.saves_of_keepsFiles keeps)

/-- Whatever is done with a handle, no other files change than it saves. -/
theorem run_confined (location : String) (engine : MemoryEngine) (disk : Disk)
    {turns : List (SaveCourse × Step)} (stay : ∀ turn ∈ turns, turn.2.staysOn = true) :
    ∃ current now, after SaveCourse.save location turns ⟨some engine, disk⟩ =
        ⟨some current, now⟩ ∧
      (current.path = engine.path ∧ current.syncWrites = engine.syncWrites) ∧
      Confined engine.path disk now := by
  -- By induction on the turns, over all handles: a step leaves the handle where it is, so that the
  -- rest of the run is confined to the same two files.
  induction turns generalizing engine disk with
  | nil => exact ⟨engine, disk, rfl, ⟨rfl, rfl⟩, .refl engine.path disk⟩
  | cons turn rest ih =>
      obtain ⟨first, others⟩ := List.forall_mem_cons.mp stay
      obtain ⟨called, changed, moved, same, confined, _⟩ :=
        step_confined location turn.1 engine disk first
      obtain ⟨current, now, reached, still, later⟩ := ih called changed others
      refine ⟨current, now, ?_, ⟨still.1.trans same.1, still.2.trans same.2⟩, ?_⟩
      · rw [after_cons, moved, reached]
      · rw [same.1] at later
        exact confined.trans later

end Session

namespace SharedHandle

open SnapshotFile (Confined)

/-- A turn of one of several calls on a handle changes no other files than the handle saves, and
none unless a call is performed that saves. -/
theorem turn_confined (shared : SharedHandle) (choice : Enumeration × Nat) :
    Confined shared.engine.path shared.disk (shared.turn choice).disk ∧
      ((∀ request ∈ shared.performs? choice, request.keepsFiles shared.engine.syncWrites = true) →
        (shared.turn choice).disk = shared.disk) := by
  obtain ⟨left, moved, turned⟩ := shared.turned choice
  rw [moved]
  cases turned with
  | passed _ | refused _ _ | admitted _ _ _ | closing _ _ => exact ⟨.refl _ _, fun _ => rfl⟩
  | @done request result disk accepted effect =>
      split at effect
      · rename_i saves
        constructor
        · have confined := SnapshotFile.confined_saveEntries shared.engine.path
            (choice.1.listing (request.applied shared.engine.store)) shared.disk
          have saved : SnapshotFile.saveEntries shared.engine.path
              (choice.1.listing (request.applied shared.engine.store)) shared.disk =
                (result.map fun _ => (), disk) := effect
          rw [saved] at confined
          exact confined
        · intro keeps
          have kept := keeps request (performs?_eq_some_iff.mpr accepted)
          cases saves.symm.trans (Request.saves_of_keepsFiles kept)
      · rw [effect]
        exact ⟨.refl _ _, fun _ => rfl⟩

/-- However the calls on a handle take turns, no other files change than the handle saves. -/
theorem run_confined (schedule : List (Enumeration × Nat)) (shared : SharedHandle) :
    Confined shared.engine.path shared.disk (run schedule shared).disk := by
  induction schedule generalizing shared with
  | nil => exact .refl _ _
  | cons choice rest ih =>
      have later := ih (shared.turn choice)
      rw [turn_same.1] at later
      exact (shared.turn_confined choice).1.trans later

end SharedHandle

namespace Session

open SnapshotFile (Confined Renamed)

/-- **Saving replaces the snapshot as a whole, and nothing else is touched.** However far an attempt
to save comes, whatever the snapshot and its draft held before: afterwards the snapshot is all of
the new one if the draft was renamed, and otherwise what it was. Along every run on a handle, by one
holder or by several at once, no other files change, and a step that only asks, or makes a change
that is saved on closing only, changes no files at all. -/
theorem replaces_whole_and_only_snapshot :
    (∀ (course : SaveCourse) (location : String) (store : Store) (disk left : Disk)
        (outcome : Except Failure Unit), course.save location store disk = (outcome, left) →
      let entries := course.order.listing store
      (outcome = .ok () ↔ Renamed course.progress location entries disk left) ∧
        (Renamed course.progress location entries disk left →
          left.readFile (SnapshotFile.path location) = .ok (Snapshot.image entries)) ∧
        (¬Renamed course.progress location entries disk left →
          left.readFile (SnapshotFile.path location) =
            disk.readFile (SnapshotFile.path location))) ∧
    (∀ (location : String) (engine : MemoryEngine) (disk : Disk) (turns : List (SaveCourse × Step)),
      (∀ turn ∈ turns, turn.2.staysOn = true) →
      ∃ current now, after SaveCourse.save location turns ⟨some engine, disk⟩ =
          ⟨some current, now⟩ ∧
        Confined engine.path disk now ∧
        ∀ (course : SaveCourse) (next : Step), next.staysOn = true →
          next.keepsFiles engine.syncWrites = true →
          (step course.save location ⟨some current, now⟩ next).2.disk = now) ∧
    ∀ (schedule : List (Enumeration × Nat)) (shared : SharedHandle),
      let reached := SharedHandle.run schedule shared
      Confined shared.engine.path shared.disk reached.disk ∧
        ∀ choice, (∀ request ∈ reached.performs? choice,
            request.keepsFiles reached.engine.syncWrites = true) →
          (reached.turn choice).disk = reached.disk := by
  refine ⟨?_, ?_, ?_⟩
  · intro course location store disk left outcome attempt
    obtain ⟨told, whole, kept⟩ := SnapshotFile.replaced_iff_renamed attempt
    refine ⟨told, whole, fun unrenamed => ?_⟩
    rw [Disk.readFile, Disk.readFile, kept unrenamed]
  · intro location engine disk turns stay
    obtain ⟨current, now, reached, same, confined⟩ := run_confined location engine disk stay
    refine ⟨current, now, reached, confined, fun course next stays keeps => ?_⟩
    obtain ⟨called, changed, moved, _, _, quiet⟩ :=
      step_confined location course current now stays
    rw [moved]
    exact quiet (same.2.symm ▸ keeps)
  · intro schedule shared
    exact ⟨SharedHandle.run_confined schedule shared,
      fun choice => (SharedHandle.turn_confined _ choice).2⟩

/-- A put whose draft is cut short over a stale one, then a put and a close that are saved: the
first leaves the old snapshot, and all of them leave another file in the location. -/
theorem replaces_whole_and_only_snapshot_over_stale_draft :
    let disk : Disk := ⟨[(["DATA_SNAPSHOT.tmp", "db"], .file [9]),
      (["DATA_SNAPSHOT", "db"], .file [1]), (["notes", "db"], .file [7]), (["db"], .directory)]⟩
    let engine : MemoryEngine := ⟨"db", true, Store.empty, false⟩
    let cut : SaveCourse := ⟨.byKey, .cut 5 (.reported "No space left on device")⟩
    let whole : SaveCourse := ⟨.byKey, .finished⟩
    let store := Store.empty.insert [1] [2]
    let torn := (cut.save "db" store disk).2
    let turns : List (SaveCourse × Step) := [(cut, .call (.put [1] [2])),
      (whole, .call (.put [1] [2])), (whole, .call .close)]
    (torn.readFile (SnapshotFile.draftPath "db") = .ok ((Snapshot.image store.entries).take 5) ∧
        torn.readFile (SnapshotFile.path "db") = .ok [1]) ∧
      (∀ turn ∈ turns, turn.2.staysOn = true) ∧
      ∃ current now, after SaveCourse.save "db" turns ⟨some engine, disk⟩ = ⟨some current, now⟩ ∧
        now.readFile (SnapshotFile.path "db") = .ok (Snapshot.image store.entries) ∧
        now.entryAt ["notes", "db"] = some (.file [7]) := by
  intro disk engine cut whole store torn turns
  have stay : ∀ turn ∈ turns, turn.2.staysOn = true := by simp [turns, Step.staysOn]
  obtain ⟨replaced, alone, _⟩ := replaces_whole_and_only_snapshot
  obtain ⟨_, _, kept⟩ := replaced cut "db" store disk torn _ rfl
  have unrenamed : ¬Renamed cut.progress "db" (cut.order.listing store) disk torn := by
    rintro ⟨finished, _⟩
    cases finished
  obtain ⟨current, now, reached, confined, _⟩ := alone "db" engine disk turns stay
  refine ⟨⟨by decide +kernel, (kept unrenamed).trans (by decide +kernel)⟩, stay, current, now,
    reached, ?_, ?_⟩
  · have left : now = (after SaveCourse.save "db" turns ⟨some engine, disk⟩).disk := by
      rw [reached]
    rw [left]
    decide +kernel
  · rw [confined.others ["notes", "db"] (by decide +kernel) (by decide +kernel)]
    rfl

end Session

end StoreTrial
