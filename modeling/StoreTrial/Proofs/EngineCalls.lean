import StoreTrial.Engine.Opening
import StoreTrial.Proofs.SnapshotRoundTrip

/-! # Calls on a handle

What the second step of a call does, in either mode and whatever comes of saving: the
handle applies the call to its store, and saves that store or leaves the medium alone
(`StoreTrial.MemoryEngine.perform_eq`). A whole call on an open handle is its second step
alone, unless the handle is to be closed.
-/

namespace StoreTrial

instance decidableEqExcept {ε α : Type} [DecidableEq ε] [DecidableEq α] :
    DecidableEq (Except ε α)
  | .ok left, .ok right => decidable_of_iff (left = right) (by simp)
  | .error left, .error right => decidable_of_iff (left = right) (by simp)
  | .ok _, .error _ | .error _, .ok _ => isFalse (by simp)

namespace Request

instance decidableEqAnswer : (request : Request) → DecidableEq request.Answer
  | put _ _ | delete _ | close => inferInstanceAs (DecidableEq Unit)
  | get _ => inferInstanceAs (DecidableEq Bytes)
  | contains _ => inferInstanceAs (DecidableEq Bool)

/-- A call that is to change the store. -/
def changes : Request → Bool
  | put _ _ | delete _ => true
  | _ => false

/-- A call that reads. -/
def isReading : Request → Bool
  | get _ | contains _ => true
  | put _ _ | delete _ | close => false

/-- The store after a call was applied to it. -/
def applied (store : Store) : Request → Store
  | put key value => store.insert key value
  | delete key => store.erase key
  | _ => store

/-- What a call is answered with when nothing goes wrong. -/
def answered (store : Store) : (request : Request) → Except Failure request.Answer
  | .put _ _ => .ok ()
  | .get key =>
      match store.get? key with
      | some value => .ok value
      | none => .error .notFound
  | .delete _ => .ok ()
  | .contains key => .ok (store.contains key)
  | .close => .ok ()

/-- Whether a call finds something in a store to change. -/
def alters (store : Store) : Request → Bool
  | put _ _ => true
  | delete key => store.contains key
  | _ => false

/-- Whether a handle saves its store in a call. -/
def saves (engine : MemoryEngine) (request : Request) : Bool :=
  request == .close || engine.syncWrites && request.alters engine.store

theorem applied_of_not_alters {store : Store} {request : Request}
    (unaltered : request.alters store = false) : request.applied store = store := by
  cases request with
  | put key value => cases unaltered
  | delete key => exact Store.erase_of_not_contains unaltered
  | get key | contains key | close => rfl

/-- A call leaves every key but its own as it was. -/
theorem get?_applied_of_ne {request : Request} {key : Bytes} (other : request.key? ≠ some key)
    (store : Store) : (request.applied store).get? key = store.get? key := by
  cases request with
  | put own value =>
      rw [applied, Store.get?_insert, if_neg]
      rintro rfl
      exact other rfl
  | delete own =>
      rw [applied, Store.get?_erase, if_neg]
      rintro rfl
      exact other rfl
  | get own | contains own | close => rfl

theorem saves_of_syncWrites {engine : MemoryEngine} (sync : engine.syncWrites = true)
    {request : Request} (other : request ≠ .close) :
    request.saves engine = request.alters engine.store := by
  simp [saves, sync, other]

theorem saves_of_not_syncWrites {engine : MemoryEngine} (lazy : engine.syncWrites = false)
    {request : Request} (other : request ≠ .close) : request.saves engine = false := by
  simp [saves, lazy, other]

theorem saves_close (engine : MemoryEngine) : saves engine .close = true := rfl

theorem saves_of_isReading {request : Request} (reads : request.isReading = true)
    (engine : MemoryEngine) : request.saves engine = false := by
  cases request with
  | get key | contains key => simp [saves, alters]
  | put key value | delete key | close => cases reads

theorem applied_of_isReading {request : Request} (reads : request.isReading = true)
    (store : Store) : request.applied store = store := by
  cases request with
  | get key | contains key => rfl
  | put key value | delete key | close => cases reads

/-- A call that saves nothing changes nothing, if every change is saved. -/
theorem applied_of_not_saves {engine : MemoryEngine} (sync : engine.syncWrites = true)
    {request : Request} (unsaved : ¬request.saves engine = true) :
    request.applied engine.store = engine.store := by
  have other : request ≠ .close := by
    rintro rfl
    exact unsaved (saves_close engine)
  rw [saves_of_syncWrites sync other] at unsaved
  exact applied_of_not_alters (by simpa using unsaved)

end Request

namespace MemoryEngine

variable {μ : Type} {engine called : MemoryEngine} {save : Save μ} {medium changed : μ}

/-- A handle that saves every change tells how saving it went. -/
theorem keep_of_syncWrites (sync : engine.syncWrites = true) (store : Store) :
    engine.keep save store medium =
      ((save store medium).1, { engine with store := store }, (save store medium).2) := by
  rw [keep, if_pos sync]

/-- A handle that saves on close only takes every change. -/
theorem keep_of_not_syncWrites (lazy : engine.syncWrites = false) (store : Store) :
    engine.keep save store medium = (.ok (), { engine with store := store }, medium) := by
  rw [keep, if_neg (by simp [lazy])]

theorem keep_eq {store : Store} {result : Except Failure Unit}
    (answer : engine.keep save store medium = (result, called, changed)) :
    called = { engine with store := store } ∧
      if engine.syncWrites then save store medium = (result.map fun _ => (), changed)
      else changed = medium := by
  by_cases sync : engine.syncWrites = true
  · rw [keep_of_syncWrites sync] at answer
    cases answer
    rw [if_pos sync]
    refine ⟨rfl, ?_⟩
    cases save store medium with
    | mk outcome left => cases outcome <;> rfl
  · rw [keep_of_not_syncWrites (by simpa using sync)] at answer
    cases answer
    rw [if_neg sync]
    exact ⟨rfl, rfl⟩

/-- The handle has applied the call to its store. If the call saves, its answer tells how
saving that store went; otherwise the medium is as it was. -/
theorem perform_eq {request : Request} {result : Except Failure request.Answer}
    (answer : engine.perform save medium request = (result, called, changed)) :
    called = { engine with store := request.applied engine.store } ∧
      if request.saves engine then
        save (request.applied engine.store) medium = (result.map fun _ => (), changed)
      else changed = medium := by
  cases request with
  | put key value => simpa [Request.saves, Request.alters, Request.applied] using keep_eq answer
  | get key =>
      rw [perform] at answer
      split at answer
      · cases answer
        exact ⟨rfl, by simp [Request.saves, Request.alters]⟩
      · cases answer
        exact ⟨rfl, by simp [Request.saves, Request.alters]⟩
  | delete key =>
      rw [perform] at answer
      split at answer
      · rename_i present
        simpa [Request.saves, Request.alters, Request.applied, present] using keep_eq answer
      · rename_i absent
        cases answer
        rw [Request.applied, Store.erase_of_not_contains (by simpa using absent)]
        exact ⟨rfl, by simp [Request.saves, Request.alters, absent]⟩
  | contains key =>
      cases answer
      exact ⟨rfl, by simp [Request.saves, Request.alters]⟩
  | close =>
      cases answer
      refine ⟨rfl, ?_⟩
      rw [if_pos (by rfl)]
      change save engine.store medium = _
      cases save engine.store medium with
      | mk outcome left => cases outcome <;> rfl

/-- A call that saves nothing is answered as the store says. -/
theorem perform_of_not_saves {request : Request} (unsaved : request.saves engine = false)
    (medium : μ) :
    engine.perform save medium request =
      (request.answered engine.store, { engine with store := request.applied engine.store },
        medium) := by
  cases request with
  | put key value =>
      have lazy : engine.syncWrites = false := by
        simpa [Request.saves, Request.alters] using unsaved
      exact keep_of_not_syncWrites lazy _
  | get key =>
      rw [perform, Request.answered]
      cases engine.store.get? key <;> rfl
  | delete key =>
      rw [perform]
      split
      · rename_i present
        have lazy : engine.syncWrites = false := by
          simpa [Request.saves, Request.alters, present] using unsaved
        exact keep_of_not_syncWrites lazy _
      · rename_i absent
        rw [Request.applied, Store.erase_of_not_contains (by simpa using absent)]
        rfl
  | contains key => rfl
  | close => cases unsaved

theorem accept_of_closed (closed : engine.closed = true) (request : Request) :
    engine.accept request = (.error .closed, engine) := by
  cases engine with
  | mk path syncWrites store flag =>
      subst closed
      cases request <;> rfl

theorem accept_of_open (opened : engine.closed = false) {request : Request}
    (other : request ≠ .close) : engine.accept request = (.ok (), engine) := by
  cases request with
  | close => exact absurd rfl other
  | put key value | get key | delete key | contains key =>
      rw [accept, requireOpen, opened, if_neg Bool.false_ne_true]
      simp

theorem accept_close_of_open (opened : engine.closed = false) :
    engine.accept .close = (.ok (), { engine with closed := true }) := by
  rw [accept, requireOpen, opened, if_neg Bool.false_ne_true]

/-- An open handle performs a call at once, unless it is to be closed. -/
theorem call_of_open (opened : engine.closed = false) {request : Request}
    (other : request ≠ .close) :
    engine.call save medium request = engine.perform save medium request := by
  rw [call, accept_of_open opened other]

/-- A call that saves nothing is answered by an open handle as its store says. -/
theorem call_of_not_saves (opened : engine.closed = false) {request : Request}
    (unsaved : request.saves engine = false) :
    engine.call save medium request =
      (request.answered engine.store, { engine with store := request.applied engine.store },
        medium) := by
  have other : request ≠ .close := by
    rintro rfl
    cases unsaved
  rw [call_of_open opened other, perform_of_not_saves unsaved]

/-- A call that reads leaves a handle and its medium as they are. -/
theorem call_of_isReading {request : Request} (reads : request.isReading = true) (save : Save μ)
    (engine : MemoryEngine) (medium : μ) :
    (engine.call save medium request).2 = (engine, medium) := by
  cases closed : engine.closed with
  | true => rw [call_of_closed save closed]
  | false =>
      rw [call_of_not_saves closed (Request.saves_of_isReading reads engine),
        Request.applied_of_isReading reads]

/-- An open handle is closed before its store is saved. -/
theorem call_close_of_open (opened : engine.closed = false) :
    engine.call save medium .close =
      ((save engine.store medium).1, { engine with closed := true },
        (save engine.store medium).2) := by
  rw [call, accept_close_of_open opened]
  rfl

/-- A location agrees with itself. -/
theorem openAt_path (options : EngineOptions) (disk : Disk) :
    openAt options.path options disk = openStore options disk := by
  rw [openAt, if_pos]
  simp [Path.same]

/-- A newly opened handle has in memory what its location holds. -/
theorem eq_of_openStore {options : EngineOptions} {start disk : Disk}
    (opened : openStore options start = (.ok engine, disk)) :
    engine.path = options.path ∧ engine.syncWrites = options.syncWrites ∧
      engine.closed = false ∧ SnapshotFile.load options.path disk = .ok engine.store := by
  rw [openStore] at opened
  split at opened
  · cases opened
  · rename_i provided _
    split at opened
    · cases opened
    · rename_i store loaded
      cases opened
      exact ⟨rfl, rfl, rfl, loaded⟩

theorem eq_of_openAt {location : String} {options : EngineOptions} {start disk : Disk}
    (opened : openAt location options start = (.ok engine, disk)) :
    engine.path = options.path ∧ engine.syncWrites = options.syncWrites ∧
      engine.closed = false ∧ SnapshotFile.load options.path disk = .ok engine.store := by
  rw [openAt] at opened
  split at opened
  · exact eq_of_openStore opened
  · cases opened

end MemoryEngine

end StoreTrial
