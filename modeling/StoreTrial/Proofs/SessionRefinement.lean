import StoreTrial.Proofs.EngineSession

/-! # Sessions against an ideal machine

The ideal machine has a store in memory, a saved store and a closed flag, and no
files: opening takes the saved store into memory, changes go to memory and, in a
handle that saves every change, to the saved store, and closing saves the memory. A
session in which the system never fails is observed as this machine is
(`StoreTrial.Session.observations_eq_ideal`).

The relation between the two (`StoreTrial.Session.Agrees`) ties the saved store to
what the location holds once it is there, so that it also speaks of a location that
has yet to be made.
-/

namespace StoreTrial

/-- The handle of the ideal machine. -/
structure IdealHandle where
  memory : Store
  syncWrites : Bool
  closed : Bool
  deriving DecidableEq

/-- The ideal machine: its handle, the store that was saved last, and whether there is
a location. -/
structure IdealMachine where
  handle : Option IdealHandle
  saved : Store
  present : Bool
  deriving DecidableEq

namespace IdealMachine

/-- Changes the memory, and the saved store with it when every change is saved. -/
def change (ideal : IdealMachine) (handle : IdealHandle) (memory : Store) : IdealMachine :=
  { ideal with
    handle := some { handle with memory := memory }
    saved := if handle.syncWrites then memory else ideal.saved }

/-- A call on an open handle. -/
def perform (ideal : IdealMachine) (handle : IdealHandle) : Request → Observation × IdealMachine
  | .put key value =>
      (.answered (.put key value) (.ok ()), ideal.change handle (handle.memory.insert key value))
  | .get key =>
      (.answered (.get key) (match handle.memory.get? key with
        | some value => .ok value
        | none => .error .notFound), ideal)
  | .delete key =>
      (.answered (.delete key) (.ok ()), ideal.change handle (handle.memory.erase key))
  | .contains key =>
      (.answered (.contains key) (.ok (handle.memory.get? key).isSome), ideal)
  | .close =>
      (.answered .close (.ok ()), { ideal with
        handle := some { handle with closed := true }
        saved := handle.memory })

/-- Asks the handle, if any; `refused` is what a closed one says. -/
def ask (ideal : IdealMachine) (refused : Observation) (question : IdealHandle → Observation) :
    Observation × IdealMachine :=
  match ideal.handle with
  | none => (.idle, ideal)
  | some handle => (if handle.closed then refused else question handle, ideal)

/-- Takes a step. Only a location without a name never comes into being. -/
def step (location : String) (ideal : IdealMachine) : Step → Observation × IdealMachine
  | .openHandle syncWrites createIfMissing =>
      if ideal.present || createIfMissing then
        (.opened (.ok ()), {
          handle := some ⟨ideal.saved, syncWrites, false⟩
          saved := ideal.saved
          present := ideal.present || !(Path.ofText location).isEmpty })
      else (.opened (.error (.invalidOperation (.locationMissing location))), ideal)
  | .call request =>
      match ideal.handle with
      | none => (.idle, ideal)
      | some handle =>
          if handle.closed then (.answered request (.error .closed), ideal)
          else ideal.perform handle request
  | .size => ideal.ask (.sized (.error .closed)) fun handle => .sized (.ok handle.memory.size)
  | .isEmpty =>
      ideal.ask (.emptiness (.error .closed)) fun handle =>
        .emptiness (.ok (handle.memory.size == 0))
  | .isClosed => ideal.ask (.closedness true) fun _ => .closedness false
  | .drop => (.dropped, { ideal with handle := none })

/-- Takes steps one after another. -/
def run (location : String) : List Step → IdealMachine → List Observation × IdealMachine
  | [], ideal => ([], ideal)
  | next :: rest, ideal =>
      let (observation, left) := ideal.step location next
      let (observations, last) := run location rest left
      (observation :: observations, last)

/-- The memory is one that a machine can hold. -/
def Fits (ideal : IdealMachine) : Prop := ∀ handle ∈ ideal.handle, handle.memory.Fits

instance (ideal : IdealMachine) : Decidable ideal.Fits :=
  match held : ideal.handle with
  | none => isTrue (by simp [Fits, held])
  | some handle => decidable_of_iff handle.memory.Fits (by simp [Fits, held])

/-- The memory is one that a machine can hold, now and after every step. -/
def FitsAlong (location : String) (steps : List Step) (ideal : IdealMachine) : Prop :=
  Along (fun ideal next => (ideal.step location next).2) Fits steps ideal

instance (location : String) (steps : List Step) (ideal : IdealMachine) :
    Decidable (FitsAlong location steps ideal) := Along.decidable _ _ _ _

end IdealMachine

namespace Session

/-- The file tree once a location was made in it, if it can be made. -/
def provided (location : String) (disk : Disk) : Disk :=
  (MemoryEngine.provideLocation { path := location } disk).2

/-- The store that is found at a location once the location is there. -/
def Holds (location : String) (disk : Disk) (store : Store) : Prop :=
  SnapshotFile.load location (provided location disk) = .ok store

instance (location : String) (disk : Disk) (store : Store) :
    Decidable (Holds location disk store) := inferInstanceAs (Decidable (_ = _))

/-- There is nothing to make before a handle can be opened at the location. -/
def Ready (location : String) (disk : Disk) : Prop :=
  disk.exists? (.ofText location) = true ∨ (Path.ofText location).isEmpty = true

variable {location : String} {disk changed : Disk}

theorem provided_of_ready (ready : Ready location disk) : provided location disk = disk := by
  rw [provided, MemoryEngine.provideLocation]
  rcases ready with there | unnamed
  · simp [there]
  · simp [Disk.exists?_of_isEmpty unnamed, Disk.makeDirectories_of_isEmpty unnamed]

theorem Holds.load {store : Store} (held : Holds location disk store)
    (ready : Ready location disk) : SnapshotFile.load location disk = .ok store := by
  rw [← held, provided_of_ready ready]

/-- After a store was saved in a location the location holds that store. -/
theorem Ready.save {store : Store} (ready : Ready location disk) (fits : store.Fits)
    {order : Enumeration} (saved : order.save location store disk = (.ok (), changed)) :
    Ready location changed ∧ Holds location changed store ∧
      changed.exists? (.ofText location) = disk.exists? (.ofText location) := by
  have found := SnapshotFile.load_of_saveEntries_eq_ok fits (order.complete store) saved
  rcases ready with there | unnamed
  · have still := SnapshotFile.exists?_location_of_saveEntries saved there
    have ready : Ready location changed := .inl still
    refine ⟨ready, ?_, by rw [there, still]⟩
    rw [Holds, provided_of_ready ready, found]
  · have ready : Ready location changed := .inr unnamed
    refine ⟨ready, ?_, by rw [Disk.exists?_of_isEmpty unnamed, Disk.exists?_of_isEmpty unnamed]⟩
    rw [Holds, provided_of_ready ready, found]

/-- What the ideal machine knows of a handle. -/
def idealHandle (engine : MemoryEngine) : IdealHandle :=
  ⟨engine.store, engine.syncWrites, engine.closed⟩

/-- A session and the ideal machine in the same state. An open handle that saves every
change has nothing in memory that is not saved. -/
structure Agrees (location : String) (session : Session) (ideal : IdealMachine) : Prop where
  handle : ideal.handle = session.handle.map idealHandle
  path : ∀ engine ∈ session.handle, engine.path = location
  present : ideal.present = session.disk.exists? (.ofText location)
  holds : Holds location session.disk ideal.saved
  ready : ∀ engine ∈ session.handle, Ready location session.disk
  synced : ∀ engine ∈ session.handle, engine.syncWrites = true → engine.closed = false →
    engine.store = ideal.saved

variable {session : Session} {ideal : IdealMachine} {engine : MemoryEngine}

/-- A question to the handle leaves everything as it is. -/
theorem Agrees.ask (agrees : Agrees location session ideal)
    {refused : Observation} {question : MemoryEngine → Observation}
    {idealQuestion : IdealHandle → Observation}
    (same : ∀ engine, question engine =
      if engine.closed then refused else idealQuestion (idealHandle engine)) :
    (session.ask question).1 = (ideal.ask refused idealQuestion).1 ∧
      Agrees location (session.ask question).2 (ideal.ask refused idealQuestion).2 := by
  rw [Session.ask, IdealMachine.ask, agrees.handle]
  cases session.handle with
  | none => exact ⟨rfl, agrees⟩
  | some engine => exact ⟨same engine, agrees⟩

/-- An open handle takes a change as the ideal machine does, unless the system fails. -/
theorem Agrees.keep (agrees : Agrees location ⟨some engine, disk⟩ ideal)
    {store : Store} (fits : store.Fits) {order : Enumeration} {result : Except Failure Unit}
    {kept : MemoryEngine}
    (answer : engine.keep (order.save location) store disk = (result, kept, changed))
    (quiet : ∀ fault, result ≠ .error (.io fault)) :
    result = .ok () ∧
      Agrees location ⟨some kept, changed⟩ (ideal.change (idealHandle engine) store) := by
  have path := agrees.path engine rfl
  have ready := agrees.ready engine rfl
  cases sync : engine.syncWrites with
  | false =>
      rw [MemoryEngine.keep_of_not_syncWrites sync] at answer
      cases answer
      refine ⟨rfl, ?_, ?_, agrees.present, ?_, ?_, ?_⟩
      · simp [IdealMachine.change, idealHandle]
      · simpa using path
      · simpa [IdealMachine.change, idealHandle, sync] using agrees.holds
      · simpa using ready
      · simp [sync]
  | true =>
      rw [MemoryEngine.keep_of_syncWrites sync] at answer
      cases attempt : order.save location store disk with
      | mk outcome left =>
        rw [attempt] at answer
        cases answer
        obtain rfl := Enumeration.eq_ok_of_save attempt quiet
        obtain ⟨ready, holds, present⟩ := ready.save fits attempt
        refine ⟨rfl, ?_, ?_, ?_, ?_, ?_, ?_⟩
        · simp [IdealMachine.change, idealHandle]
        · simpa using path
        · exact agrees.present.trans present.symm
        · simpa [IdealMachine.change, idealHandle, sync] using holds
        · simpa using ready
        · simp [IdealMachine.change, idealHandle, sync]

/-- An open handle is closed as the ideal machine is, unless the system fails. -/
theorem Agrees.close (agrees : Agrees location ⟨some engine, disk⟩ ideal)
    (fits : engine.store.Fits) {order : Enumeration} {outcome : Except Failure Unit}
    (attempt : order.save location engine.store disk = (outcome, changed))
    (quiet : ∀ fault, outcome ≠ .error (.io fault)) :
    outcome = .ok () ∧
      Agrees location ⟨some { engine with closed := true }, changed⟩ { ideal with
        handle := some { idealHandle engine with closed := true }
        saved := engine.store } := by
  obtain rfl := Enumeration.eq_ok_of_save attempt quiet
  obtain ⟨ready, holds, present⟩ := (agrees.ready engine rfl).save fits attempt
  refine ⟨rfl, rfl, ?_, agrees.present.trans present.symm, holds, ?_, ?_⟩
  · simpa using agrees.path engine rfl
  · simpa using ready
  · simp

/-- A change that leaves the memory as it is does nothing. -/
theorem Agrees.change_memory (agrees : Agrees location ⟨some engine, disk⟩ ideal)
    (closed : engine.closed = false) :
    ideal.change (idealHandle engine) engine.store = ideal := by
  have handle : ideal.handle = some (idealHandle engine) := agrees.handle
  have synced := agrees.synced engine rfl
  cases ideal with
  | mk held saved present =>
      cases sync : engine.syncWrites with
      | false => simp_all [IdealMachine.change, idealHandle]
      | true => simp_all [IdealMachine.change, idealHandle]

/-- A call on an open handle is answered as the ideal machine answers it, unless the
system fails. -/
theorem Agrees.perform (agrees : Agrees location ⟨some engine, disk⟩ ideal)
    (closed : engine.closed = false) {request : Request}
    (fits : (ideal.perform (idealHandle engine) request).2.Fits) {order : Enumeration}
    {result : Except Failure request.Answer} {called : MemoryEngine}
    (answer : engine.call (order.save location) disk request = (result, called, changed))
    (quiet : ∀ fault, result ≠ .error (.io fault)) :
    .answered request result = (ideal.perform (idealHandle engine) request).1 ∧
      Agrees location ⟨some called, changed⟩ (ideal.perform (idealHandle engine) request).2 := by
  cases request with
  | put key value =>
      rw [MemoryEngine.call_of_open closed (by simp)] at answer
      obtain ⟨rfl, next⟩ := agrees.keep (fits _ rfl) answer quiet
      exact ⟨rfl, next⟩
  | get key =>
      rw [MemoryEngine.call_of_open closed (by simp), MemoryEngine.perform] at answer
      rw [IdealMachine.perform, idealHandle]
      split at answer
      · rename_i value found
        cases answer
        exact ⟨by rw [found], agrees⟩
      · rename_i absent
        cases answer
        exact ⟨by rw [absent], agrees⟩
  | delete key =>
      rw [MemoryEngine.call_of_open closed (by simp), MemoryEngine.perform] at answer
      split at answer
      · obtain ⟨rfl, next⟩ := agrees.keep (fits _ rfl) answer quiet
        exact ⟨rfl, next⟩
      · rename_i absent
        cases answer
        have unchanged : engine.store.erase key = engine.store :=
          Store.erase_of_not_contains (by simpa using absent)
        refine ⟨rfl, ?_⟩
        change Agrees _ _ (ideal.change (idealHandle engine) (engine.store.erase key))
        rw [unchanged, agrees.change_memory closed]
        exact agrees
  | contains key =>
      rw [MemoryEngine.call_of_open closed (by simp), MemoryEngine.perform] at answer
      cases answer
      exact ⟨rfl, agrees⟩
  | close =>
      rw [MemoryEngine.call_close_of_open closed] at answer
      cases attempt : order.save location engine.store disk with
      | mk outcome left =>
        rw [attempt] at answer
        cases answer
        obtain ⟨rfl, next⟩ := agrees.close (fits _ rfl) attempt quiet
        exact ⟨rfl, next⟩

theorem ready_of_makeDirectories
    (made : disk.makeDirectories (.ofText location) = (.ok (), changed)) :
    Ready location changed := by
  cases unnamed : (Path.ofText location).isEmpty with
  | true => exact .inr unnamed
  | false => exact .inl (Disk.exists?_of_makeDirectories unnamed made)

theorem exists?_of_ready (ready : Ready location disk) :
    disk.exists? (.ofText location) = !(Path.ofText location).isEmpty := by
  rcases ready with there | unnamed
  · cases unnamed : (Path.ofText location).isEmpty with
    | true => exact absurd there (by simp [Disk.exists?_of_isEmpty unnamed])
    | false => exact there
  · rw [Disk.exists?_of_isEmpty unnamed, unnamed, Bool.not_true]

/-- A handle is opened as the ideal machine opens its own, unless the system fails. -/
theorem Agrees.openStore (agrees : Agrees location session ideal)
    {syncWrites createIfMissing : Bool} {result : Except Failure MemoryEngine}
    (answer : MemoryEngine.openStore ⟨location, syncWrites, createIfMissing⟩ session.disk =
      (result, changed))
    (quiet : ∀ fault, result ≠ .error (.io fault)) :
    if ideal.present || createIfMissing then
      result = .ok ⟨location, syncWrites, ideal.saved, false⟩ ∧ Ready location changed ∧
        Holds location changed ideal.saved ∧ changed.exists? (.ofText location) =
          (ideal.present || !(Path.ofText location).isEmpty)
    else result = .error (.invalidOperation (.locationMissing location)) ∧
      changed = session.disk := by
  have held := agrees.holds
  rw [agrees.present]
  cases there : session.disk.exists? (.ofText location) with
  | true =>
      have ready : Ready location session.disk := .inl there
      have loaded := held.load ready
      simp only [MemoryEngine.openStore, MemoryEngine.provideLocation, there, ↓reduceIte,
        loaded] at answer
      cases answer
      exact ⟨rfl, ready, held, there⟩
  | false =>
      rw [Holds, provided, MemoryEngine.provideLocation] at held
      simp only [there, Bool.false_eq_true, ↓reduceIte] at held
      cases createIfMissing with
      | false =>
          simp only [MemoryEngine.openStore, MemoryEngine.provideLocation, there,
            Bool.false_eq_true, ↓reduceIte] at answer
          cases answer
          exact ⟨rfl, rfl⟩
      | true =>
          simp only [MemoryEngine.openStore, MemoryEngine.provideLocation, there,
            Bool.false_eq_true, ↓reduceIte] at answer
          cases making : session.disk.makeDirectories (.ofText location) with
          | mk outcome made =>
            rw [making] at answer held
            cases outcome with
            | error fault =>
                cases answer
                exact absurd rfl (quiet fault)
            | ok _ =>
                have ready := ready_of_makeDirectories making
                simp only [held] at answer
                cases answer
                refine ⟨rfl, ready, ?_, exists?_of_ready ready⟩
                rw [Holds, provided_of_ready ready, held]

/-- Each step is observed as the ideal machine is, and leaves the two in the same state,
unless the system fails. -/
theorem Agrees.step (agrees : Agrees location session ideal) {next : Step}
    (fits : (ideal.step location next).2.Fits) {order : Enumeration}
    (quiet : (session.step order.save location next).1.isSystemFailure = false) :
    (session.step order.save location next).1 = (ideal.step location next).1 ∧
      Agrees location (session.step order.save location next).2
        (ideal.step location next).2 := by
  cases next with
  | openHandle syncWrites createIfMissing =>
      have quiet := Observation.failure?_ne_io quiet
      rw [Session.step] at quiet ⊢
      rw [IdealMachine.step]
      rw [MemoryEngine.openAt_path ⟨location, syncWrites, createIfMissing⟩] at quiet ⊢
      cases answer : MemoryEngine.openStore ⟨location, syncWrites, createIfMissing⟩
          session.disk with
      | mk result changed =>
        rw [answer] at quiet
        have opened := agrees.openStore answer (by
          rintro fault rfl
          exact quiet fault rfl)
        split at opened
        · rename_i allowed
          obtain ⟨rfl, ready, holds, present⟩ := opened
          rw [if_pos allowed]
          refine ⟨rfl, rfl, ?_, present.symm, holds, ?_, ?_⟩
          · simp
          · simpa using ready
          · simp
        · rename_i refused
          obtain ⟨rfl, rfl⟩ := opened
          rw [if_neg refused]
          exact ⟨rfl, agrees⟩
  | call request =>
      have quiet := Observation.failure?_ne_io quiet
      rw [IdealMachine.step, agrees.handle] at fits
      rw [Session.step] at quiet ⊢
      rw [IdealMachine.step, agrees.handle]
      obtain ⟨handle, disk⟩ := session
      cases handle with
      | none => exact ⟨rfl, agrees⟩
      | some engine =>
          dsimp only [Option.map_some] at fits quiet ⊢
          cases closed : engine.closed with
          | true =>
              have marked : (idealHandle engine).closed = true := closed
              rw [MemoryEngine.call_of_closed _ closed, if_pos marked]
              exact ⟨rfl, agrees⟩
          | false =>
              have unmarked : ¬(idealHandle engine).closed = true := by simp [idealHandle, closed]
              rw [if_neg unmarked] at fits ⊢
              rw [agrees.path engine rfl] at quiet ⊢
              cases answer : engine.call (order.save location) disk request with
              | mk result left =>
                obtain ⟨called, changed⟩ := left
                rw [answer] at quiet
                exact agrees.perform closed fits answer (by
                  rintro fault rfl
                  exact quiet fault rfl)
  | size =>
      refine agrees.ask fun engine => ?_
      rw [MemoryEngine.size, MemoryEngine.requireOpen]
      cases engine.closed <;> rfl
  | isEmpty =>
      refine agrees.ask fun engine => ?_
      rw [MemoryEngine.isEmpty, MemoryEngine.size, MemoryEngine.requireOpen]
      cases engine.closed <;> rfl
  | isClosed =>
      refine agrees.ask fun engine => ?_
      cases engine.closed <;> rfl
  | drop =>
      refine ⟨rfl, rfl, ?_, agrees.present, agrees.holds, ?_, ?_⟩
      · simp [Session.step]
      · simp [Session.step]
      · simp [Session.step]

/-- A run is observed as the ideal machine's is, and leaves the two in the same state. -/
theorem Agrees.run (agrees : Agrees location session ideal) {turns : List (Enumeration × Step)}
    (fits : IdealMachine.FitsAlong location (turns.map Prod.snd) ideal)
    (quiet : ∀ observation ∈ (run Enumeration.save location turns session).1,
      observation.isSystemFailure = false) :
    (Session.run Enumeration.save location turns session).1 =
        (ideal.run location (turns.map Prod.snd)).1 ∧
      Agrees location (Session.run Enumeration.save location turns session).2
        (ideal.run location (turns.map Prod.snd)).2 := by
  induction turns generalizing session ideal with
  | nil => exact ⟨rfl, agrees⟩
  | cons turn rest ih =>
      obtain ⟨first, later⟩ := List.forall_mem_cons.mp quiet
      obtain ⟨same, next⟩ := agrees.step fits.2.now first
      obtain ⟨others, last⟩ := ih next fits.2 later
      exact ⟨congr (congrArg List.cons same) others, last⟩

/-- **Sessions are those of the ideal machine.** Whatever is done at a location, with
handles opened in either mode, closed, let go of and opened again, and in whatever
order entries are written: as long as the system does not fail, every answer is the
ideal machine's, and the location holds the store that the ideal machine saved last. -/
theorem observations_eq_ideal (location : String) (disk : Disk) (saved : Store)
    (held : Holds location disk saved) (turns : List (Enumeration × Step))
    (fits : IdealMachine.FitsAlong location (turns.map Prod.snd)
      ⟨none, saved, disk.exists? (.ofText location)⟩)
    (quiet : ∀ observation ∈ (run Enumeration.save location turns ⟨none, disk⟩).1,
      observation.isSystemFailure = false) :
    (run Enumeration.save location turns ⟨none, disk⟩).1 =
        (IdealMachine.run location (turns.map Prod.snd)
          ⟨none, saved, disk.exists? (.ofText location)⟩).1 ∧
      Holds location (run Enumeration.save location turns ⟨none, disk⟩).2.disk
        (IdealMachine.run location (turns.map Prod.snd)
          ⟨none, saved, disk.exists? (.ofText location)⟩).2.saved := by
  have start : Agrees location ⟨none, disk⟩ ⟨none, saved, disk.exists? (.ofText location)⟩ := by
    refine ⟨rfl, ?_, rfl, held, ?_, ?_⟩
    · simp
    · simp
    · simp
  obtain ⟨same, agrees⟩ := start.run fits quiet
  exact ⟨same, agrees.holds⟩

/-- A location that has yet to be made: a dropped handle loses its change, a handle that
saves every change does not, and a closed one refuses. -/
theorem observations_eq_ideal_reopened :
    let turns := [Step.openHandle false false, .openHandle false true, .call (.put [1] [2]), .size,
      .drop, .size, .openHandle true false, .call (.get [1]), .call (.put [1] [3]),
      .call (.put [4] []), .call (.delete [5]), .call (.delete [4]), .drop,
      .openHandle false false, .call (.contains [4]), .call (.get [1]), .call (.put [6] [7]),
      .call .close, .call (.put [8] [9]), .isClosed, .isEmpty, .call .close,
      .openHandle true true, .size, .call (.get [6])].map (Enumeration.byKey, ·)
    let start : IdealMachine := ⟨none, Store.empty, false⟩
    (Holds "db" Disk.empty Store.empty ∧ start.FitsAlong "db" (turns.map Prod.snd) ∧
      ∀ observation ∈ (run Enumeration.save "db" turns ⟨none, Disk.empty⟩).1,
        observation.isSystemFailure = false) ∧
    (run Enumeration.save "db" turns ⟨none, Disk.empty⟩).1 =
        (start.run "db" (turns.map Prod.snd)).1 ∧
      Holds "db" (run Enumeration.save "db" turns ⟨none, Disk.empty⟩).2.disk
        (start.run "db" (turns.map Prod.snd)).2.saved :=
  ⟨⟨by decide +kernel, by decide +kernel, by decide +kernel⟩,
    observations_eq_ideal "db" Disk.empty Store.empty (by decide +kernel) _ (by decide +kernel)
      (by decide +kernel)⟩

end Session

end StoreTrial
