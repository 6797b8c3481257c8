import StoreTrial.Proofs.FailedSaves

/-! # Changes that are answered with a failure

A closed handle refuses a put or a deletion and stays as it is. An open handle that is to save
every change takes the change into its memory before it tries to save it, and keeps it when that
fails. Readers see the change then, unless it is a put of the value that was held already, and the
next attempt to save that succeeds writes it out
(`StoreTrial.MemoryEngine.failed_change_unseen_iff`).
-/

namespace StoreTrial

namespace Request

variable {request : Request} {key : Bytes} {store : Store}

/-- The key that a call changes, if any. -/
def changedKey? : Request → Option Bytes
  | put key _ | delete key => some key
  | get _ | contains _ | close => none

/-- The value that a change leaves under its key. -/
def left? : Request → Option Bytes
  | put _ value => some value
  | delete _ | get _ | contains _ | close => none

theorem get?_applied_self (own : request.changedKey? = some key) (store : Store) :
    (request.applied store).get? key = request.left? := by
  cases request with
  | put other value =>
      cases own
      rw [applied, Store.get?_insert, if_pos rfl, left?]
  | delete other =>
      cases own
      rw [applied, Store.get?_erase, if_pos rfl, left?]
  | get other | contains other | close => cases own

theorem get?_applied_of_changedKey?_ne (other : request.changedKey? ≠ some key) (store : Store) :
    (request.applied store).get? key = store.get? key := by
  cases request with
  | put own value =>
      have apart : (put own value).key? ≠ some key := other
      exact get?_applied_of_ne apart store
  | delete own =>
      have apart : (delete own).key? ≠ some key := other
      exact get?_applied_of_ne apart store
  | get own | contains own | close => rfl

/-- Calls that do not change a key leave it as it was. -/
theorem get?_foldl_applied_of_changedKey?_ne {ι : Type} {calls : List (ι × Request)}
    (others : ∀ call ∈ calls, call.2.changedKey? ≠ some key) (store : Store) :
    (calls.foldl (fun store call => call.2.applied store) store).get? key = store.get? key := by
  induction calls generalizing store with
  | nil => rfl
  | cons call rest ih =>
      obtain ⟨first, later⟩ := List.forall_mem_cons.mp others
      rw [List.foldl_cons, ih later, get?_applied_of_changedKey?_ne first]

/-- A change that leaves under its key what was there changes nothing. -/
theorem applied_eq_self_iff (own : request.changedKey? = some key) :
    request.applied store = store ↔ store.get? key = request.left? := by
  have left := get?_applied_self own store
  constructor
  · intro same
    rwa [same] at left
  · intro held
    apply Store.ext_get?
    intro sought
    by_cases same : sought = key
    · rw [same, left, held]
    · refine get?_applied_of_changedKey?_ne ?_ store
      rw [own]
      exact fun other => same (Option.some.inj other).symm

/-- A change that finds something to change changes nothing only if it is a put of the value that
is held. -/
theorem applied_eq_self_iff_of_alters (changes : request.changes = true)
    (alters : request.alters store = true) :
    request.applied store = store ↔
      ∃ key value, request = .put key value ∧ store.get? key = some value := by
  cases request with
  | put key value =>
      rw [applied_eq_self_iff rfl]
      constructor
      · intro held
        exact ⟨key, value, rfl, held⟩
      · rintro ⟨_, _, ⟨⟩, held⟩
        exact held
  | delete key =>
      rw [applied_eq_self_iff rfl]
      constructor
      · intro absent
        have present : (store.get? key).isSome = true := alters
        rw [absent] at present
        cases present
      · rintro ⟨_, _, ⟨⟩, _⟩
  | get key | contains key | close => cases changes

end Request

namespace MemoryEngine

variable {engine called : MemoryEngine} {disk changed : Disk}

/-- Two handles, each over its own medium, that answer alike about their content. -/
structure AnswersAlike {μ : Type} (save : Save μ) (left : MemoryEngine) (first : μ)
    (right : MemoryEngine) (second : μ) : Prop where
  get : ∀ key, (left.call save first (.get key)).1 = (right.call save second (.get key)).1
  contains : ∀ key,
    (left.call save first (.contains key)).1 = (right.call save second (.contains key)).1
  size : left.size = right.size

theorem call_get_of_open {μ : Type} (opened : engine.closed = false) (save : Save μ) (medium : μ)
    (key : Bytes) :
    (engine.call save medium (.get key)).1 =
      match engine.store.get? key with
      | some value => .ok value
      | none => .error .notFound := by
  rw [call_of_not_saves opened (Request.saves_of_isReading rfl engine)]
  rfl

theorem call_contains_of_open {μ : Type} (opened : engine.closed = false) (save : Save μ)
    (medium : μ) (key : Bytes) :
    (engine.call save medium (.contains key)).1 = .ok (engine.store.contains key) := by
  rw [call_of_not_saves opened (Request.saves_of_isReading rfl engine)]
  rfl

theorem size_of_open (opened : engine.closed = false) : engine.size = .ok engine.store.size := by
  rw [size, requireOpen, opened, if_neg Bool.false_ne_true]
  rfl

/-- Open handles answer alike exactly if they hold the same store. -/
theorem answersAlike_iff {μ : Type} {save : Save μ} {left right : MemoryEngine} {first second : μ}
    (leftOpen : left.closed = false) (rightOpen : right.closed = false) :
    AnswersAlike save left first right second ↔ left.store = right.store := by
  constructor
  · intro alike
    apply Store.ext_get?
    intro key
    have same := alike.get key
    rw [call_get_of_open leftOpen, call_get_of_open rightOpen] at same
    cases before : left.store.get? key with
    | none =>
        cases after : right.store.get? key with
        | none => rfl
        | some value => simp [before, after] at same
    | some value =>
        cases after : right.store.get? key with
        | none => simp [before, after] at same
        | some other => simpa [before, after] using same
  · intro same
    constructor
    · intro key
      rw [call_get_of_open leftOpen, call_get_of_open rightOpen, same]
    · intro key
      rw [call_contains_of_open leftOpen, call_contains_of_open rightOpen, same]
    · rw [size_of_open leftOpen, size_of_open rightOpen, same]

/-- The handle and the file tree after some calls, each with what becomes of its attempt to
save. -/
def afterCalls {location : String} :
    List (SaveAttempt location × Request) → MemoryEngine → Disk → MemoryEngine × Disk
  | [], engine, disk => (engine, disk)
  | (attempt, request) :: rest, engine, disk =>
      let (_, called, changed) := engine.call (attempt.save engine.path) disk request
      afterCalls rest called changed

/-- After calls that do not close it a handle that saves every change has applied them all to its
memory, whatever came of their attempts to save. -/
theorem IsSyncing.after_calls {location : String} (syncing : engine.IsSyncing location)
    {calls : List (SaveAttempt location × Request)} (stay : ∀ call ∈ calls, call.2 ≠ .close)
    (disk : Disk) :
    (afterCalls calls engine disk).1.IsSyncing location ∧
      (afterCalls calls engine disk).1.store =
        calls.foldl (fun store call => call.2.applied store) engine.store := by
  -- By induction on the calls: whatever comes of saving, each call is applied to the memory.
  induction calls generalizing engine disk with
  | nil => exact ⟨syncing, rfl⟩
  | cons call rest ih =>
      obtain ⟨attempt, request⟩ := call
      obtain ⟨other, others⟩ := List.forall_mem_cons.mp stay
      obtain ⟨next, applied, _⟩ := syncing.call other
        (rfl : engine.call (attempt.save engine.path) disk request = _)
      obtain ⟨last, folded⟩ := ih next others _
      refine ⟨last, folded.trans ?_⟩
      rw [List.foldl_cons, applied]

/-- What a handle saves is its memory with the call applied to it. -/
theorem IsSyncing.load_of_saves {location : String} (syncing : engine.IsSyncing location)
    {attempt : SaveAttempt location} {request : Request} (saves : request.saves engine = true)
    {answer : request.Answer}
    (answered : engine.call (attempt.save engine.path) disk request = (.ok answer, called, changed))
    (fits : called.store.Fits) :
    called.store = request.applied engine.store ∧
      SnapshotFile.load location changed = .ok called.store := by
  rw [syncing.path] at answered
  by_cases closing : request = .close
  · subst closing
    rw [call_close_of_open syncing.opened] at answered
    obtain ⟨saved, rest⟩ := Prod.mk.inj answered
    obtain ⟨rfl, left⟩ := Prod.mk.inj rest
    exact ⟨rfl, SaveAttempt.load_of_save_eq_ok fits (Prod.ext saved left)⟩
  · obtain ⟨_, applied, effect⟩ := syncing.call closing answered
    rw [Request.saves_of_syncWrites syncing.syncWrites closing] at saves
    rw [if_pos saves, ← applied] at effect
    exact ⟨applied, SaveAttempt.load_of_save_eq_ok fits effect⟩

/-- A change that fails was refused by a closed handle, or could not be saved by a handle that has
taken it. -/
theorem call_eq_error_of_changes {μ : Type} {save : Save μ} {medium left : μ} {request : Request}
    (changes : request.changes = true) {failure : Failure}
    (failed : engine.call save medium request = (.error failure, called, left)) :
    (engine.closed = true ∧ failure = .closed ∧ called = engine ∧ left = medium) ∨
      (engine.closed = false ∧ engine.syncWrites = true ∧ request.alters engine.store = true ∧
        called = { engine with store := request.applied engine.store } ∧
        save (request.applied engine.store) medium = (.error failure, left)) := by
  cases closed : engine.closed with
  | true =>
      rw [call_of_closed save closed] at failed
      cases failed
      exact .inl ⟨rfl, rfl, rfl, rfl⟩
  | false =>
      have other : request ≠ .close := by
        rintro rfl
        cases changes
      rw [call_of_open closed other] at failed
      obtain ⟨applied, effect⟩ := perform_eq failed
      cases saves : request.saves engine with
      | false =>
          rw [perform_of_not_saves saves] at failed
          cases request with
          | put key value | delete key => cases failed
          | get key | contains key | close => cases changes
      | true =>
          rw [if_pos saves] at effect
          have both : engine.syncWrites = true ∧ request.alters engine.store = true := by
            simpa [Request.saves, other] using saves
          exact .inr ⟨rfl, both.1, both.2, applied.trans (by rw [closed]), effect⟩

/-- After calls that do not close it, a handle that saves every change holds under the other keys
what it held before. -/
theorem IsSyncing.get?_after_calls {location : String} (syncing : engine.IsSyncing location)
    {calls : List (SaveAttempt location × Request)} (stay : ∀ call ∈ calls, call.2 ≠ .close)
    {key : Bytes} (untouched : ∀ call ∈ calls, call.2.changedKey? ≠ some key) (disk : Disk) :
    (afterCalls calls engine disk).1.store.get? key = engine.store.get? key := by
  rw [(syncing.after_calls stay disk).2, Request.get?_foldl_applied_of_changedKey?_ne untouched]

/-- **What a failed change leaves behind.** A put or a deletion fails because the handle is closed,
which leaves everything as it was, or because a handle that saves every change could not save this
one, which it holds in memory all the same. So readers are answered as before exactly if the handle
is closed or the call was a put of the value that was held. However the open handle is called
afterwards, it holds what the failed change left under its key until that key is changed again, and
the next attempt to save that succeeds writes it out. -/
theorem failed_change_unseen_iff {save : Save Disk} {request : Request}
    (changes : request.changes = true) {failure : Failure}
    (failed : engine.call save disk request = (.error failure, called, changed)) :
    (engine.closed = true ∧ failure = .closed ∧ called = engine ∧ changed = disk ∨
        engine.closed = false ∧ engine.syncWrites = true ∧
          called = { engine with store := request.applied engine.store } ∧
          save (request.applied engine.store) disk = (.error failure, changed)) ∧
      (AnswersAlike save engine disk called changed ↔
        engine.closed = true ∨
          ∃ key value, request = .put key value ∧ engine.store.get? key = some value) ∧
      (engine.closed = false →
        ∀ later : List (SaveAttempt engine.path × Request), (∀ call ∈ later, call.2 ≠ .close) →
        ∀ key, request.changedKey? = some key →
          (∀ call ∈ later, call.2.changedKey? ≠ some key) →
        ∀ current now, afterCalls later called changed = (current, now) →
          current.store.get? key = request.left? ∧
          ∀ (attempt : SaveAttempt engine.path) (last : Request), last.saves current = true →
            last.changedKey? ≠ some key →
          ∀ (answer : last.Answer) (ended : MemoryEngine) (left : Disk),
            current.call (attempt.save current.path) now last = (.ok answer, ended, left) →
            ended.store.Fits →
            SnapshotFile.load engine.path left = .ok ended.store ∧
              ended.store.get? key = request.left?) := by
  obtain ⟨closed, told, same, kept⟩ | ⟨opened, sync, alters, taken, unsaved⟩ :=
    call_eq_error_of_changes changes failed
  · subst same kept
    refine ⟨.inl ⟨closed, told, rfl, rfl⟩, ?_, fun opened => ?_⟩
    · exact ⟨fun _ => .inl closed, fun _ => ⟨fun _ => rfl, fun _ => rfl, rfl⟩⟩
    · rw [closed] at opened
      cases opened
  · -- The handle has taken the change and goes on as if it had saved it.
    have syncing : called.IsSyncing engine.path := by
      subst taken
      exact ⟨rfl, sync, opened⟩
    refine ⟨.inr ⟨opened, sync, taken, unsaved⟩, ?_, ?_⟩
    · rw [answersAlike_iff opened syncing.opened, eq_comm, taken,
        Request.applied_eq_self_iff_of_alters changes alters]
      simp [opened]
    · intro _ later stay key own untouched current now reached
      have keeps := (syncing.after_calls stay changed).1
      have held := syncing.get?_after_calls stay untouched changed
      rw [reached] at keeps held
      have stays : current.store.get? key = request.left? := by
        rw [held, taken]
        exact Request.get?_applied_self own engine.store
      refine ⟨stays, fun attempt last saves other answer ended left answered fits => ?_⟩
      obtain ⟨applied, loaded⟩ := keeps.load_of_saves saves answered fits
      refine ⟨loaded, ?_⟩
      rw [applied, Request.get?_applied_of_changedKey?_ne other, stays]

/-- A put that could not be saved, then a look at its key and a put under another key that could not
be saved either; the close that succeeds saves the first. -/
theorem failed_change_unseen_iff_until_closed :
    let engine : MemoryEngine := ⟨"db", true, Store.empty, false⟩
    let disk := (Disk.empty.makeDirectories (.ofText "db")).2
    let fails : SaveAttempt "db" := .broken .isDirectory id fun _ => rfl
    let called : MemoryEngine := ⟨"db", true, Store.empty.insert [107] [118], false⟩
    let later : List (SaveAttempt "db" × Request) := [(fails, .get [107]), (fails, .put [1] [2])]
    let current := (afterCalls later called disk).1
    (Request.changes (.put [107] [118]) = true ∧
        engine.call (fails.save "db") disk (.put [107] [118]) =
          (.error (.io .isDirectory), called, disk)) ∧
      ¬AnswersAlike (fails.save "db") engine disk called disk ∧
      ∃ ended left, current.call (Enumeration.byKey.save "db") disk .close = (.ok (), ended, left) ∧
        SnapshotFile.load "db" left = .ok ended.store ∧ ended.store.get? [107] = some [118] := by
  intro engine disk fails called later current
  have failed : engine.call (fails.save "db") disk (.put [107] [118]) =
      (.error (.io .isDirectory), called, disk) := rfl
  obtain ⟨_, unseen, saved⟩ := failed_change_unseen_iff rfl failed
  refine ⟨⟨rfl, failed⟩, fun alike => ?_, ?_⟩
  · obtain closed | ⟨key, value, same, held⟩ := unseen.mp alike
    · cases closed
    · cases held
  · let reply := current.call (Enumeration.byKey.save "db") disk .close
    have succeeded : reply = (.ok (), reply.2.1, reply.2.2) := by decide +kernel
    obtain ⟨_, written⟩ := saved rfl later (by decide +kernel) [107] rfl (by decide +kernel)
      current disk (by rfl)
    obtain ⟨loaded, held⟩ := written (.written .byKey) .close rfl (by decide +kernel) ()
      reply.2.1 reply.2.2 succeeded (by decide +kernel)
    exact ⟨_, _, succeeded, loaded, held⟩

end MemoryEngine

/-- A put is answered with a failure, for a directory stands in the place of the draft. The key is
read afterwards, and the close that succeeds saves it. -/
theorem Session.failed_put_read_and_saved :
    let turns : List (SaveAttempt "db" × Step) := [(.written .byKey, .openHandle true true),
      (.written .byKey, .call (.get [107])),
      (.broken .isDirectory id fun _ => rfl, .call (.put [107] [118])),
      (.written .byKey, .call (.get [107])), (.written .byKey, .call (.contains [107])),
      (.written .byKey, .size), (.written .byKey, .call .close)]
    let (observations, last) := run SaveAttempt.save "db" turns ⟨none, Disk.empty⟩
    observations = [.opened (.ok ()), .answered (.get [107]) (.error .notFound),
        .answered (.put [107] [118]) (.error (.io .isDirectory)),
        .answered (.get [107]) (.ok [118]), .answered (.contains [107]) (.ok true),
        .sized (.ok 1), .answered .close (.ok ())] ∧
      SnapshotFile.load "db" last.disk = .ok (Store.empty.insert [107] [118]) := by
  decide +kernel

end StoreTrial
