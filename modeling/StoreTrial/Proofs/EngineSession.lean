import StoreTrial.Proofs.EngineCalls
import StoreTrial.Proofs.SnapshotReplacement

/-! # Sessions with one handle

What the holder of a handle does at one location, step after step: handles are
opened, called, asked and let go of. Every step comes with a way to save, so that a
run says in which order entries are written, or which attempts to save fail.
-/

namespace StoreTrial

/-- A property of a state, now and after every one of some steps. -/
def Along {σ α : Type} (step : σ → α → σ) (property : σ → Prop) : List α → σ → Prop
  | [], state => property state
  | next :: rest, state => property state ∧ Along step property rest (step state next)

theorem Along.now {σ α : Type} {step : σ → α → σ} {property : σ → Prop} {steps : List α}
    {state : σ} (along : Along step property steps state) : property state := by
  cases steps with
  | nil => exact along
  | cons next rest => exact along.1

theorem Along.drop {σ α : Type} {step : σ → α → σ} {property : σ → Prop} {first second : List α}
    {state : σ} (along : Along step property (first ++ second) state) :
    Along step property second (first.foldl step state) := by
  induction first generalizing state with
  | nil => exact along
  | cons next rest ih => exact ih along.2

instance Along.decidable {σ α : Type} (step : σ → α → σ) (property : σ → Prop)
    [DecidablePred property] :
    (steps : List α) → (state : σ) → Decidable (Along step property steps state)
  | [], state => inferInstanceAs (Decidable (property state))
  | next :: rest, state =>
      have := Along.decidable step property rest (step state next)
      inferInstanceAs (Decidable (property state ∧ Along step property rest (step state next)))

/-- An order in which the entries of every store are written. -/
structure Enumeration where
  listing : Store → List (Bytes × Bytes)
  complete : ∀ store, (listing store).Perm store.entries

namespace Enumeration

/-- The order of the keys. -/
def byKey : Enumeration := ⟨Store.entries, fun _ => .refl _⟩

/-- Saves stores in a location, their entries in this order. -/
def save (order : Enumeration) (location : String) : MemoryEngine.Save Disk :=
  fun store disk => SnapshotFile.saveEntries location (order.listing store) disk

/-- By itself a handle saves in the order of the keys. -/
theorem answer_eq_call_byKey (engine : MemoryEngine) (disk : Disk) (request : Request) :
    engine.answer disk request = engine.call (byKey.save engine.path) disk request := rfl

/-- Saving fails only when the system does. -/
theorem eq_ok_of_save {order : Enumeration} {location : String} {store : Store}
    {disk changed : Disk} {outcome : Except Failure Unit}
    (attempt : order.save location store disk = (outcome, changed))
    (quiet : ∀ fault, outcome ≠ .error (.io fault)) : outcome = .ok () := by
  cases outcome with
  | ok _ => rfl
  | error failure =>
      obtain ⟨⟨fault, rfl⟩, _⟩ := SnapshotFile.saveEntries_eq_error attempt
      exact absurd rfl (quiet fault)

end Enumeration

/-- What may be done at a location by the holder of one handle. -/
inductive Step where
  /-- Opens a handle in place of the one that is held. -/
  | openHandle (syncWrites createIfMissing : Bool)
  | call (request : Request)
  | size
  | isEmpty
  | isClosed
  /-- Lets go of the handle without closing it. -/
  | drop
  deriving DecidableEq

/-- What the holder of a handle is told. -/
inductive Observation where
  | opened (result : Except Failure Unit)
  | answered (request : Request) (result : Except Failure request.Answer)
  | sized (result : Except Failure Nat)
  | emptiness (result : Except Failure Bool)
  | closedness (closed : Bool)
  | dropped
  /-- There is no handle. -/
  | idle
  deriving DecidableEq

namespace Observation

/-- The failure that was told, if any. -/
def failure? : Observation → Option Failure
  | opened (.error failure) => some failure
  | answered _ (.error failure) => some failure
  | sized (.error failure) => some failure
  | emptiness (.error failure) => some failure
  | _ => none

/-- Whether the system is said to have failed. -/
def isSystemFailure (observation : Observation) : Bool :=
  match observation.failure? with
  | some (.io _) => true
  | _ => false

theorem failure?_ne_io {observation : Observation} (quiet : observation.isSystemFailure = false)
    (fault : DiskFault) : observation.failure? ≠ some (.io fault) := by
  intro failed
  rw [isSystemFailure, failed] at quiet
  contradiction

end Observation

/-- The handle that is held, if any, and the file tree. -/
structure Session where
  handle : Option MemoryEngine
  disk : Disk
  deriving DecidableEq

namespace Session

/-- Asks the handle that is held, if any. -/
def ask (session : Session) (question : MemoryEngine → Observation) : Observation × Session :=
  match session.handle with
  | none => (.idle, session)
  | some engine => (question engine, session)

/-- Takes a step. A handle saves in its own location. -/
def step (saving : String → MemoryEngine.Save Disk) (location : String) (session : Session) :
    Step → Observation × Session
  | .openHandle syncWrites createIfMissing =>
      let options : EngineOptions := ⟨location, syncWrites, createIfMissing⟩
      match MemoryEngine.openAt location options session.disk with
      | (.ok engine, disk) => (.opened (.ok ()), ⟨some engine, disk⟩)
      | (.error failure, disk) => (.opened (.error failure), ⟨session.handle, disk⟩)
  | .call request =>
      match session.handle with
      | none => (.idle, session)
      | some engine =>
          let (result, called, disk) := engine.call (saving engine.path) session.disk request
          (.answered request result, ⟨some called, disk⟩)
  | .size => session.ask fun engine => .sized engine.size
  | .isEmpty => session.ask fun engine => .emptiness engine.isEmpty
  | .isClosed => session.ask fun engine => .closedness engine.closed
  | .drop => (.dropped, ⟨none, session.disk⟩)

/-- Takes steps one after another, each with its own way to save. -/
def run {ι : Type} (saving : ι → String → MemoryEngine.Save Disk) (location : String) :
    List (ι × Step) → Session → List Observation × Session
  | [], session => ([], session)
  | (choice, next) :: rest, session =>
      let (observation, left) := session.step (saving choice) location next
      let (observations, last) := run saving location rest left
      (observation :: observations, last)

/-- The memory is one that a machine can hold. -/
def Fits (session : Session) : Prop := ∀ engine ∈ session.handle, engine.store.Fits

instance (session : Session) : Decidable session.Fits :=
  match held : session.handle with
  | none => isTrue (by simp [Fits, held])
  | some engine => decidable_of_iff engine.store.Fits (by simp [Fits, held])

variable {ι : Type} (saving : ι → String → MemoryEngine.Save Disk) (location : String)

/-- The memory is one that a machine can hold, now and after every step. -/
def FitsAlong (turns : List (ι × Step)) (session : Session) : Prop :=
  Along (fun session turn => (session.step (saving turn.1) location turn.2).2) Fits turns session

instance (turns : List (ι × Step)) (session : Session) :
    Decidable (FitsAlong saving location turns session) := Along.decidable _ _ _ _

/-- The session after some steps. -/
def after (turns : List (ι × Step)) (session : Session) : Session :=
  (run saving location turns session).2

theorem after_cons (turn : ι × Step) (rest : List (ι × Step)) (session : Session) :
    after saving location (turn :: rest) session =
      after saving location rest (session.step (saving turn.1) location turn.2).2 := rfl

theorem observations_cons (turn : ι × Step) (rest : List (ι × Step)) (session : Session) :
    (run saving location (turn :: rest) session).1 =
      (session.step (saving turn.1) location turn.2).1 ::
        (run saving location rest (session.step (saving turn.1) location turn.2).2).1 := rfl

end Session

end StoreTrial
