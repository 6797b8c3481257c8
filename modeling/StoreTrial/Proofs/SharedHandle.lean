import StoreTrial.Proofs.EngineSession

/-! # Handles with several holders

Calls that run at the same time on one handle. Each call has two steps, accepted by the
closed flag and performed under the lock, and the steps of different calls come in any
order. The memory is what the performed requests make of it
(`StoreTrial.SharedHandle.store_run`), and a handle that saves every change has no other
snapshot than its memory (`StoreTrial.SharedHandle.Together.run`).
-/

namespace StoreTrial

/-- A call, and how far it has come. -/
inductive SharedCall where
  | waiting (request : Request)
  | accepted (request : Request)
  | returned (request : Request) (result : Except Failure request.Answer)
  deriving DecidableEq

/-- Whether a call has failed because of the system. -/
def SharedCall.isSystemFailure : SharedCall → Bool
  | .returned _ (.error (.io _)) => true
  | _ => false

/-- A handle, the file tree, and the calls on the handle. -/
structure SharedHandle where
  engine : MemoryEngine
  disk : Disk
  calls : List SharedCall

namespace SharedHandle

/-- Requests to a handle that are yet to be accepted. -/
def begin (engine : MemoryEngine) (disk : Disk) (requests : List Request) : SharedHandle :=
  ⟨engine, disk, requests.map .waiting⟩

/-- The next step of the call at an index, which writes entries in the given order if it
saves. A call that has returned takes no more steps. -/
def turn (shared : SharedHandle) (choice : Enumeration × Nat) : SharedHandle :=
  match shared.calls[choice.2]? with
  | some (.waiting request) =>
      match shared.engine.accept request with
      | (.ok (), engine) =>
          { shared with engine := engine, calls := shared.calls.set choice.2 (.accepted request) }
      | (.error failure, engine) =>
          { shared with
            engine := engine
            calls := shared.calls.set choice.2 (.returned request (.error failure)) }
  | some (.accepted request) =>
      let (result, engine, disk) :=
        shared.engine.perform (choice.1.save shared.engine.path) shared.disk request
      ⟨engine, disk, shared.calls.set choice.2 (.returned request result)⟩
  | _ => shared

/-- Lets calls take steps in the order of a schedule. -/
def run (schedule : List (Enumeration × Nat)) (shared : SharedHandle) : SharedHandle :=
  schedule.foldl turn shared

/-- The request that is performed in a turn, if any. -/
def performs? (shared : SharedHandle) (choice : Enumeration × Nat) : Option Request :=
  match shared.calls[choice.2]? with
  | some (.accepted request) => some request
  | _ => none

/-- The requests that are performed along a schedule. -/
def performed : List (Enumeration × Nat) → SharedHandle → List Request
  | [], _ => []
  | choice :: rest, shared =>
      (shared.performs? choice).toList ++ performed rest (shared.turn choice)

/-- No call has failed because of the system. -/
def Quiet (shared : SharedHandle) : Prop :=
  ∀ call ∈ shared.calls, call.isSystemFailure = false

instance (shared : SharedHandle) : Decidable shared.Quiet :=
  inferInstanceAs (Decidable (∀ call ∈ shared.calls, call.isSystemFailure = false))

/-- What a turn of the call at an index can do: the call may have returned, be refused,
be accepted, be accepted and close the handle, or be performed. -/
inductive Turned (choice : Enumeration × Nat) (shared : SharedHandle) :
    SharedHandle → Prop where
  | passed (idle : ∀ request, shared.calls[choice.2]? ≠ some (.accepted request)) :
      Turned choice shared shared
  | refused {request : Request} (waiting : shared.calls[choice.2]? = some (.waiting request))
      (closed : shared.engine.closed = true) :
      Turned choice shared
        { shared with calls := shared.calls.set choice.2 (.returned request (.error .closed)) }
  | admitted {request : Request} (waiting : shared.calls[choice.2]? = some (.waiting request))
      (opened : shared.engine.closed = false) (other : request ≠ .close) :
      Turned choice shared
        { shared with calls := shared.calls.set choice.2 (.accepted request) }
  | closing (waiting : shared.calls[choice.2]? = some (.waiting .close))
      (opened : shared.engine.closed = false) :
      Turned choice shared
        { shared with
          engine := { shared.engine with closed := true }
          calls := shared.calls.set choice.2 (.accepted .close) }
  | done {request : Request} {result : Except Failure request.Answer} {disk : Disk}
      (accepted : shared.calls[choice.2]? = some (.accepted request))
      (effect : if request.saves shared.engine then
          choice.1.save shared.engine.path (request.applied shared.engine.store) shared.disk =
            (result.map fun _ => (), disk)
        else disk = shared.disk) :
      Turned choice shared
        ⟨{ shared.engine with store := request.applied shared.engine.store }, disk,
          shared.calls.set choice.2 (.returned request result)⟩

theorem turned (shared : SharedHandle) (choice : Enumeration × Nat) :
    ∃ left, shared.turn choice = left ∧ Turned choice shared left := by
  refine ⟨_, rfl, ?_⟩
  rw [turn]
  cases found : shared.calls[choice.2]? with
  | none => exact .passed (by simp [found])
  | some call =>
      cases call with
      | returned request result => exact .passed (by simp [found])
      | waiting request =>
          cases flag : shared.engine.closed with
          | true =>
              simp only [MemoryEngine.accept_of_closed flag]
              exact .refused found flag
          | false =>
              by_cases other : request = .close
              · subst other
                simp only [MemoryEngine.accept_close_of_open flag]
                exact .closing found flag
              · simp only [MemoryEngine.accept_of_open flag other]
                exact .admitted found flag other
      | accepted request =>
          cases answer : shared.engine.perform (choice.1.save shared.engine.path) shared.disk
              request with
          | mk result left =>
              obtain ⟨engine, disk⟩ := left
              obtain ⟨rfl, effect⟩ := MemoryEngine.perform_eq answer
              simp only [answer]
              exact .done found effect

variable {shared : SharedHandle} {choice : Enumeration × Nat} {call next : SharedCall}

theorem getElem?_set_of_some {index : Nat} (found : shared.calls[index]? = some call)
    (other : Nat) :
    (shared.calls.set index next)[other]? =
      if index = other then some next else shared.calls[other]? := by
  obtain ⟨bound, _⟩ := List.getElem?_eq_some_iff.mp found
  rw [List.getElem?_set, if_pos bound]

theorem getElem?_set_self_of_some {index : Nat} (found : shared.calls[index]? = some call) :
    (shared.calls.set index next)[index]? = some next := by
  rw [getElem?_set_of_some found, if_pos rfl]

/-- A call that has returned is not touched. -/
theorem returned_of_turn {request : Request} {result : Except Failure request.Answer}
    {other : Nat} (returned : shared.calls[other]? = some (.returned request result)) :
    (shared.turn choice).calls[other]? = some (.returned request result) := by
  have apart {call next : SharedCall} (found : shared.calls[choice.2]? = some call)
      (unreturned : call ≠ .returned request result) :
      (shared.calls.set choice.2 next)[other]? = some (.returned request result) := by
    rw [getElem?_set_of_some found, if_neg, returned]
    rintro rfl
    exact unreturned (Option.some.inj (found.symm.trans returned))
  obtain ⟨left, moved, turned⟩ := shared.turned choice
  rw [moved]
  cases turned with
  | passed _ => exact returned
  | refused waiting _ => exact apart waiting (by simp)
  | admitted waiting _ _ => exact apart waiting (by simp)
  | closing waiting _ => exact apart waiting (by simp)
  | done accepted _ => exact apart accepted (by simp)

theorem Quiet.of_turn (quiet : (shared.turn choice).Quiet) :
    shared.Quiet := by
  intro call member
  cases call with
  | waiting request => rfl
  | accepted request => rfl
  | returned request result =>
      obtain ⟨index, found⟩ := List.mem_iff_getElem?.mp member
      exact quiet _ (List.mem_of_getElem? (returned_of_turn found))

theorem Quiet.of_run {schedule : List (Enumeration × Nat)} (quiet : (run schedule shared).Quiet) :
    shared.Quiet := by
  induction schedule generalizing shared with
  | nil => exact quiet
  | cons choice rest ih => exact (ih quiet).of_turn

theorem turn_same :
    (shared.turn choice).engine.path = shared.engine.path ∧
      (shared.turn choice).engine.syncWrites = shared.engine.syncWrites := by
  obtain ⟨left, moved, turned⟩ := shared.turned choice
  rw [moved]
  cases turned <;> exact ⟨rfl, rfl⟩

theorem performs?_eq_some_iff {request : Request} :
    shared.performs? choice = some request ↔
      shared.calls[choice.2]? = some (.accepted request) := by
  rw [performs?]
  split
  · rename_i found
    simp [found]
  · rename_i other
    constructor
    · intro asked
      cases asked
    · intro found
      exact absurd found (other request)

theorem store_turn :
    (shared.turn choice).engine.store =
      (shared.performs? choice).toList.foldl Request.applied shared.engine.store := by
  obtain ⟨left, moved, turned⟩ := shared.turned choice
  rw [moved]
  cases turned with
  | passed idle =>
      cases asked : shared.performs? choice with
      | none => rfl
      | some request => exact absurd (performs?_eq_some_iff.mp asked) (idle request)
  | refused waiting _ => simp [performs?, waiting]
  | admitted waiting _ _ => simp [performs?, waiting]
  | closing waiting _ => simp [performs?, waiting]
  | done accepted _ => rw [performs?_eq_some_iff.mpr accepted]; rfl

/-- The memory is what the performed requests make of it. -/
theorem store_run (schedule : List (Enumeration × Nat)) (shared : SharedHandle) :
    (run schedule shared).engine.store =
      (performed schedule shared).foldl Request.applied shared.engine.store := by
  induction schedule generalizing shared with
  | nil => rfl
  | cons choice rest ih =>
      rw [performed, List.foldl_append, ← store_turn]
      exact ih _

/-- The snapshot is that of the memory, if the handle saves every change. -/
def Together (shared : SharedHandle) : Prop :=
  shared.engine.syncWrites = true →
    SnapshotFile.load shared.engine.path shared.disk = .ok shared.engine.store

/-- A call that saves has saved what it says, unless the system has failed. -/
theorem load_of_effect {request : Request} {result : Except Failure request.Answer}
    {store : Store} {disk : Disk} {engine : MemoryEngine} {path : String}
    (accepted : shared.calls[choice.2]? = some (.accepted request))
    (quiet : Quiet ⟨engine, disk, shared.calls.set choice.2 (.returned request result)⟩)
    (fits : store.Fits)
    (saved : choice.1.save path store shared.disk = (result.map fun _ => (), disk)) :
    SnapshotFile.load path disk = .ok store := by
  cases result with
  | ok _ => exact SnapshotFile.load_of_saveEntries_eq_ok fits (choice.1.complete store) saved
  | error failure =>
      obtain ⟨⟨fault, rfl⟩, _⟩ := SnapshotFile.saveEntries_eq_error saved
      cases quiet _ (List.mem_of_getElem? (getElem?_set_self_of_some accepted))

theorem Together.turn (together : shared.Together) (quiet : (shared.turn choice).Quiet)
    (fits : (shared.turn choice).engine.store.Fits) : (shared.turn choice).Together := by
  obtain ⟨left, moved, turned⟩ := shared.turned choice
  rw [moved] at quiet fits ⊢
  cases turned with
  | passed _ => exact together
  | refused _ _ => exact together
  | admitted _ _ _ => exact together
  | closing _ _ => exact together
  | @done request result disk accepted effect =>
      intro (sync : shared.engine.syncWrites = true)
      split at effect
      · exact load_of_effect accepted quiet fits effect
      · rename_i unsaved
        rw [effect, Request.applied_of_not_saves sync unsaved]
        exact together sync

/-- The memory is one that a machine can hold, now and after every turn. -/
def FitsAlong (schedule : List (Enumeration × Nat)) (shared : SharedHandle) : Prop :=
  Along turn (fun shared => shared.engine.store.Fits) schedule shared

instance (schedule : List (Enumeration × Nat)) (shared : SharedHandle) :
    Decidable (FitsAlong schedule shared) := Along.decidable _ _ _ _

variable {schedule : List (Enumeration × Nat)}

theorem run_same (schedule : List (Enumeration × Nat)) (shared : SharedHandle) :
    (run schedule shared).engine.path = shared.engine.path ∧
      (run schedule shared).engine.syncWrites = shared.engine.syncWrites := by
  induction schedule generalizing shared with
  | nil => exact ⟨rfl, rfl⟩
  | cons choice rest ih =>
      obtain ⟨path, mode⟩ := ih (shared.turn choice)
      exact ⟨path.trans turn_same.1, mode.trans turn_same.2⟩

theorem Together.run (together : shared.Together) (quiet : (run schedule shared).Quiet)
    (fits : FitsAlong schedule shared) : (run schedule shared).Together := by
  induction schedule generalizing shared with
  | nil => exact together
  | cons choice rest ih =>
      have settled : (SharedHandle.run rest (shared.turn choice)).Quiet := quiet
      exact ih (together.turn settled.of_run fits.2.now) settled fits.2

end SharedHandle

end StoreTrial
