import StoreTrial.Proofs.ServingWorlds
import StoreTrial.Proofs.SessionRefinement

/-! # Sessions at a shared location

A session goes on at a location where others save as well. Every step of it goes as it goes for a
holder that is by itself and finds what was saved before when it opens a handle
(`StoreTrial.Session.Shares.step`), and the location then holds the store that was saved last.
-/

namespace StoreTrial

namespace IdealMachine

/-- An open handle answers from its memory alone. -/
theorem perform_eq {ideal : IdealMachine} {handle : IdealHandle} (held : ideal.handle = some handle)
    (request : Request) :
    (ideal.perform handle request).1 = .answered request (request.answered handle.memory) ∧
      (ideal.perform handle request).2.handle = some { handle with
        memory := request.applied handle.memory
        closed := handle.closed || request == .close } := by
  cases request with
  | put key value => simp [perform, change, Request.answered, Request.applied]
  | get key =>
      have stays : (Request.get key == .close) = false := rfl
      exact ⟨rfl, by simp [perform, held, Request.applied, stays]⟩
  | delete key => simp [perform, change, Request.answered, Request.applied]
  | contains key =>
      have stays : (Request.contains key == .close) = false := rfl
      exact ⟨rfl, by simp [perform, held, Request.applied, stays]⟩
  | close => simp [perform, Request.answered, Request.applied]

end IdealMachine

namespace MemoryEngine

variable {μ : Type} {save : Save μ} {engine called : MemoryEngine} {disk changed : Disk}

/-- A call that saves is answered as the store says, if saving succeeds. -/
theorem eq_answered_of_saves {request : Request} {result : Except Failure request.Answer}
    (saves : request.saves engine = true) (done : result.map (fun _ => ()) = .ok ()) :
    result = request.answered engine.store := by
  cases result with
  | error failure => cases done
  | ok answer =>
      cases request with
      | put key value | delete key | close => rfl
      | get key | contains key => simp [Request.saves, Request.alters] at saves

/-- After a call an open handle holds the changed store. -/
theorem store_call (opened : engine.closed = false) (medium : μ) (request : Request) :
    (engine.call save medium request).2.1.store = request.applied engine.store := by
  by_cases closing : request = .close
  · rw [closing, call_close_of_open opened]
    rfl
  · have performed : (engine.perform save medium request).2.1 =
        { engine with store := request.applied engine.store } := (perform_eq rfl).1
    rw [call_of_open opened closing, performed]

/-- An open handle answers a call as its store says, and saves the changed store where that belongs
to the call, unless the system fails. -/
theorem call_of_quiet (opened : engine.closed = false) {request : Request} {order : Enumeration}
    {location : String} {result : Except Failure request.Answer}
    (answer : engine.call (order.save location) disk request = (result, called, changed))
    (quiet : ∀ fault, result ≠ .error (.io fault)) :
    result = request.answered engine.store ∧
      called = { engine with
        store := request.applied engine.store
        closed := request == .close } ∧
      if request.saves engine then
        order.save location (request.applied engine.store) disk = (.ok (), changed)
      else changed = disk := by
  by_cases closing : request = .close
  · subst closing
    rw [call_close_of_open opened] at answer
    cases attempt : order.save location engine.store disk with
    | mk outcome left =>
        rw [attempt] at answer
        cases answer
        obtain rfl := Enumeration.eq_ok_of_save attempt quiet
        exact ⟨rfl, rfl, attempt⟩
  · rw [call_of_open opened closing] at answer
    have stays : (request == .close) = false := by simpa using closing
    rw [stays, ← opened]
    cases saves : request.saves engine with
    | false =>
        rw [perform_of_not_saves saves] at answer
        cases answer
        exact ⟨rfl, rfl, rfl⟩
    | true =>
        obtain ⟨rfl, attempt⟩ := perform_eq answer
        rw [if_pos saves] at attempt
        have done := Enumeration.eq_ok_of_save attempt (by
          intro fault failed
          cases result with
          | ok _ => cases failed
          | error failure =>
              cases failed
              exact quiet fault rfl)
        rw [done] at attempt
        exact ⟨eq_answered_of_saves saves done, rfl, attempt⟩

end MemoryEngine

namespace Session

/-- Whether the handle saves its store in a step. -/
def saves (session : Session) : Step → Bool
  | .call request => session.handle.any fun engine => !engine.closed && request.saves engine
  | _ => false

/-- The whole memory of the handle after a step in which it was saved. -/
def saved? (location : String) (session : Session) (order : Enumeration) (next : Step) :
    Option Store :=
  if session.saves next then
    (session.step order.save location next).2.handle.map MemoryEngine.store
  else none

end Session

/-- What a holder of handles does, and the content that is there for a handle that is opened. -/
structure Visit where
  step : Step
  found : Option Store
  deriving DecidableEq

namespace Visit

/-- A visit to a location that is there or not, when a store was saved before. -/
def ofStep (present : Bool) (saved : Store) (next : Step) : Visit where
  step := next
  found :=
    match next with
    | .openHandle _ createIfMissing => if present || createIfMissing then some saved else none
    | _ => none

/-- What a holder is told by itself, and its handle afterwards. -/
def alone (location : String) (visit : Visit) (held : Option IdealHandle) :
    Observation × Option IdealHandle :=
  let (observation, left) := IdealMachine.step location
    ⟨held, visit.found.getD .empty, visit.found.isSome⟩ visit.step
  (observation, left.handle)

theorem alone_openHandle (location : String) (present : Bool) (saved : Store)
    (syncWrites createIfMissing : Bool) (held : Option IdealHandle) :
    (ofStep present saved (.openHandle syncWrites createIfMissing)).alone location held =
      if present || createIfMissing then (.opened (.ok ()), some ⟨saved, syncWrites, false⟩)
      else (.opened (.error (.invalidOperation (.locationMissing location))), held) := by
  cases present <;> cases createIfMissing <;> rfl

/-- By itself an open handle answers a call from its memory. -/
theorem alone_call (location : String) (present : Bool) (saved : Store) (request : Request)
    {handle : IdealHandle} (opened : handle.closed = false) :
    (ofStep present saved (.call request)).alone location (some handle) =
      (.answered request (request.answered handle.memory),
        some { handle with
          memory := request.applied handle.memory
          closed := request == .close }) := by
  obtain ⟨answered, left⟩ :=
    IdealMachine.perform_eq (rfl : (⟨some handle, .empty, false⟩ : IdealMachine).handle = _) request
  rw [opened, Bool.false_or] at left
  simp only [alone, ofStep, IdealMachine.step, opened, Bool.false_eq_true, ↓reduceIte]
  exact Prod.ext answered left

/-- What a holder is told by itself in its visits, and its handle afterwards. -/
def replay (location : String) :
    List Visit → Option IdealHandle → List Observation × Option IdealHandle
  | [], held => ([], held)
  | visit :: rest, held =>
      let (observation, left) := visit.alone location held
      let (observations, last) := replay location rest left
      (observation :: observations, last)

theorem replay_cons (location : String) (visit : Visit) (rest : List Visit)
    (held : Option IdealHandle) :
    replay location (visit :: rest) held =
      ((visit.alone location held).1 ::
          (replay location rest (visit.alone location held).2).1,
        (replay location rest (visit.alone location held).2).2) := rfl

end Visit

namespace Session

variable {location : String} {session : Session} {saved : Store}

/-- A session at a location whose snapshot others may have saved. -/
structure Shares (location : String) (session : Session) (saved : Store) : Prop where
  holds : Holds location session.disk saved
  path : ∀ engine ∈ session.handle, engine.path = location
  ready : ∀ engine ∈ session.handle, Ready location session.disk

/-- A step that goes as it goes for a holder by itself, and after which a store was saved last. -/
structure Goes (location : String) (session : Session) (stepped : Observation × Session)
    (visit : Visit) (saved : Store) : Prop where
  told : stepped.1 = (visit.alone location (session.handle.map idealHandle)).1
  handle : stepped.2.handle.map idealHandle =
    (visit.alone location (session.handle.map idealHandle)).2
  shares : Shares location stepped.2 saved
  stays : Ready location session.disk → Ready location stepped.2.disk

variable {order : Enumeration}

theorem Shares.openHandle (shares : Shares location session saved)
    (syncWrites createIfMissing : Bool)
    (quiet : (session.step order.save location
      (.openHandle syncWrites createIfMissing)).1.isSystemFailure = false) :
    Goes location session
      (session.step order.save location (.openHandle syncWrites createIfMissing))
      (.ofStep (session.disk.exists? (.ofText location)) saved
        (.openHandle syncWrites createIfMissing)) saved := by
  have agrees : Agrees location ⟨none, session.disk⟩
      ⟨none, saved, session.disk.exists? (.ofText location)⟩ := by
    refine ⟨rfl, ?_, rfl, shares.holds, ?_, ?_⟩
    · simp
    · simp
    · simp
  have quiet := Observation.failure?_ne_io quiet
  rw [Session.step] at quiet ⊢
  rw [MemoryEngine.openAt_path ⟨location, syncWrites, createIfMissing⟩] at quiet ⊢
  cases answer : MemoryEngine.openStore ⟨location, syncWrites, createIfMissing⟩
      session.disk with
  | mk result changed =>
      rw [answer] at quiet
      have opened := agrees.openStore answer (by
        rintro fault rfl
        exact quiet fault rfl)
      have alone := Visit.alone_openHandle location (session.disk.exists? (.ofText location)) saved
        syncWrites createIfMissing (session.handle.map idealHandle)
      dsimp only at opened
      split at opened
      · rename_i allowed
        rw [if_pos allowed] at alone
        obtain ⟨rfl, ready, holds, _⟩ := opened
        refine ⟨?_, ?_, ⟨holds, ?_, ?_⟩, fun _ => ready⟩
        · rw [alone]
        · rw [alone]
          rfl
        · simp
        · simpa using ready
      · rename_i refused
        rw [if_neg refused] at alone
        obtain ⟨rfl, rfl⟩ := opened
        exact ⟨by rw [alone], by rw [alone], shares, id⟩

/-- A call on an open handle goes as by itself, and the snapshot is then the memory of the handle
if that was saved. -/
theorem Shares.call {engine : MemoryEngine} {disk : Disk}
    (shares : Shares location ⟨some engine, disk⟩ saved) (opened : engine.closed = false)
    (request : Request)
    (fits : request.saves engine = true → (request.applied engine.store).Fits)
    (quiet : (step order.save location ⟨some engine, disk⟩ (.call request)).1.isSystemFailure =
      false) (present : Bool) :
    Goes location ⟨some engine, disk⟩ (step order.save location ⟨some engine, disk⟩ (.call request))
      (.ofStep present saved (.call request))
      (if request.saves engine then request.applied engine.store else saved) := by
  have path := shares.path engine rfl
  have ready := shares.ready engine rfl
  have quiet := Observation.failure?_ne_io quiet
  have ideally : (idealHandle engine).closed = false := opened
  have alone := Visit.alone_call location present saved request ideally
  rw [Session.step] at quiet ⊢
  dsimp only at quiet ⊢
  rw [path] at quiet ⊢
  cases answer : engine.call (order.save location) disk request with
  | mk result left =>
      obtain ⟨called, changed⟩ := left
      rw [answer] at quiet
      obtain ⟨rfl, rfl, effect⟩ := MemoryEngine.call_of_quiet opened answer (by
        rintro fault rfl
        exact quiet fault rfl)
      have settled : Ready location changed ∧
          Holds location changed
            (if request.saves engine then request.applied engine.store else saved) := by
        by_cases saves : request.saves engine = true
        · rw [if_pos saves] at effect ⊢
          obtain ⟨ready, holds, _⟩ := ready.save (fits saves) effect
          exact ⟨ready, holds⟩
        · rw [if_neg saves] at effect ⊢
          exact ⟨effect ▸ ready, effect ▸ shares.holds⟩
      refine ⟨?_, ?_, ⟨settled.2, ?_, ?_⟩, fun _ => settled.1⟩
      · exact congrArg Prod.fst alone.symm
      · exact congrArg Prod.snd alone.symm
      · simpa using path
      · simpa using settled.1

theorem saved?_call {engine : MemoryEngine} (opened : engine.closed = false) (location : String)
    (disk : Disk) (order : Enumeration) (request : Request) :
    saved? location ⟨some engine, disk⟩ order (.call request) =
      if request.saves engine then some (request.applied engine.store) else none := by
  have saving : saves ⟨some engine, disk⟩ (.call request) = request.saves engine := by
    simp [saves, opened]
  rw [saved?, saving]
  split
  · exact congrArg some (MemoryEngine.store_call opened disk request)
  · rfl

/-- A question to the handle is answered as by itself. -/
theorem Shares.ask (shares : Shares location session saved)
    {question : MemoryEngine → Observation} {visit : Visit}
    (idle : visit.alone location none = (.idle, none))
    (same : ∀ engine, visit.alone location (some (idealHandle engine)) =
      (question engine, some (idealHandle engine))) :
    Goes location session (session.ask question) visit saved := by
  obtain ⟨handle, disk⟩ := session
  cases handle with
  | none => exact ⟨congrArg Prod.fst idle.symm, congrArg Prod.snd idle.symm, shares, id⟩
  | some engine =>
      have alone := same engine
      exact ⟨congrArg Prod.fst alone.symm, congrArg Prod.snd alone.symm, shares, id⟩

/-- Each step goes as by itself, and the snapshot is the store that was saved last. -/
theorem Shares.step (shares : Shares location session saved) (next : Step)
    (fits : ∀ store ∈ session.saved? location order next, store.Fits)
    (quiet : (session.step order.save location next).1.isSystemFailure = false) :
    Goes location session (session.step order.save location next)
      (.ofStep (session.disk.exists? (.ofText location)) saved next)
      ((session.saved? location order next).getD saved) := by
  cases next with
  | openHandle syncWrites createIfMissing =>
      exact shares.openHandle syncWrites createIfMissing quiet
  | call request =>
      obtain ⟨handle, disk⟩ := session
      cases handle with
      | none => exact ⟨rfl, rfl, shares, id⟩
      | some engine =>
          cases closed : engine.closed with
          | true =>
              have unsaved : saved? location ⟨some engine, disk⟩ order (.call request) = none := by
                simp [saved?, saves, closed]
              have refused : Session.step order.save location ⟨some engine, disk⟩ (.call request) =
                  (.answered request (.error .closed), ⟨some engine, disk⟩) := by
                simp only [Session.step, MemoryEngine.call_of_closed _ closed]
              have alone : (Visit.ofStep (disk.exists? (.ofText location)) saved
                  (.call request)).alone location (some (idealHandle engine)) =
                    (.answered request (.error .closed), some (idealHandle engine)) := by
                simp [Visit.alone, Visit.ofStep, IdealMachine.step, idealHandle, closed]
              rw [unsaved, refused]
              exact ⟨congrArg Prod.fst alone.symm, congrArg Prod.snd alone.symm, shares, id⟩
          | false =>
              rw [saved?_call closed] at fits ⊢
              have goes := shares.call closed request
                (fun saves => fits _ (if_pos saves)) quiet (disk.exists? (.ofText location))
              cases saves : request.saves engine with
              | true => simpa [saves] using goes
              | false => simpa [saves] using goes
  | size =>
      refine shares.ask rfl fun engine => ?_
      rw [MemoryEngine.size, MemoryEngine.requireOpen]
      cases engine with
      | mk path syncWrites store closed => cases closed <;> rfl
  | isEmpty =>
      refine shares.ask rfl fun engine => ?_
      rw [MemoryEngine.isEmpty, MemoryEngine.size, MemoryEngine.requireOpen]
      cases engine with
      | mk path syncWrites store closed => cases closed <;> rfl
  | isClosed =>
      refine shares.ask rfl fun engine => ?_
      cases engine with
      | mk path syncWrites store closed => cases closed <;> rfl
  | drop =>
      refine ⟨rfl, rfl, ⟨shares.holds, ?_, ?_⟩, id⟩
      · simp [Session.step]
      · simp [Session.step]

/-- Where there is a snapshot nothing has to be made before a handle can be opened. -/
theorem ready_of_snapshot {disk : Disk}
    (there : disk.exists? (SnapshotFile.path location) = true) : Ready location disk := by
  obtain ⟨⟨place, entry⟩, found⟩ := Disk.exists?_eq_true_iff.mp there
  obtain ⟨reached, _, _⟩ := Disk.find_eq_ok_iff.mp found
  obtain ⟨base, walked, held, _⟩ := SnapshotFile.isFileName_name.spot_join reached
  cases unnamed : (Path.ofText location).isEmpty with
  | true => exact .inr unnamed
  | false =>
      have given : location ≠ "" := by
        rintro rfl
        cases unnamed
      have fine : (SnapshotFile.path location).fault = none :=
        (Disk.spot_eq_ok_iff.mp reached).1
      rw [SnapshotFile.path, SnapshotFile.isFileName_name.isPiece.join_eq _ given] at fine
      have fault : (Path.ofText location).fault = none :=
        Path.faultOf_of_append (Path.faultOf_of_append fine)
      have spotted : disk.spot (.ofText location) = .ok base :=
        Disk.spot_eq_ok_iff.mpr ⟨fault, unnamed, walked⟩
      exact .inl (Disk.exists?_eq_true_iff.mpr
        ⟨_, Disk.find_eq_ok_iff.mpr ⟨spotted, held, fun _ => rfl⟩⟩)

/-- A snapshot decodes to the store that the location holds. -/
theorem Holds.decode {disk : Disk} (holds : Holds location disk saved)
    (there : disk.exists? (SnapshotFile.path location) = true) :
    ∃ content, disk.readFile (SnapshotFile.path location) = .ok content ∧
      Snapshot.decode content = .ok saved := by
  have loaded := holds.load (ready_of_snapshot there)
  rw [SnapshotFile.load, if_pos there] at loaded
  split at loaded
  · cases loaded
  · rename_i content read
    split at loaded
    · cases loaded
    · rename_i store decoded
      cases loaded
      exact ⟨content, read, decoded⟩

end Session

end StoreTrial
