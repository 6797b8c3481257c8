import StoreTrial.Proofs.SharedSnapshot

/-! # Handles at one location

Several holders open, call and let go of handles at one location, in turns. What they share is the
snapshot: it is the whole memory of the handle that saved last, and every handle is opened with it.
The rest is private: a holder is told what it would be told by itself, if its handles were opened
with the same content (`StoreTrial.Company.snapshot_of_last_saved`).
-/

namespace StoreTrial

/-- The holders of handles at one location, each with its handle, if any, and the file tree. -/
structure Company where
  handles : Nat → Option MemoryEngine
  disk : Disk

namespace Company

/-- Whose turn it is, in which order entries are written, and the step that is taken. -/
structure Turn where
  holder : Nat
  order : Enumeration
  step : Step

/-- Nobody has a handle. -/
def gather (disk : Disk) : Company := ⟨fun _ => none, disk⟩

def session (company : Company) (holder : Nat) : Session := ⟨company.handles holder, company.disk⟩

/-- Takes the step of a turn with the handle of its holder. -/
def take (location : String) (company : Company) (turn : Turn) : Observation × Company :=
  let (observation, left) :=
    (company.session turn.holder).step turn.order.save location turn.step
  (observation,
    ⟨fun holder => if holder = turn.holder then left.handle else company.handles holder,
      left.disk⟩)

/-- What a turn was like: the step and what its holder was told, whether the location was there
before, and the whole memory of the handle afterwards if it was saved. -/
structure Record where
  holder : Nat
  step : Step
  observation : Observation
  present : Bool
  saved : Option Store
  deriving DecidableEq

def record (location : String) (company : Company) (turn : Turn) : Record where
  holder := turn.holder
  step := turn.step
  observation := (company.take location turn).1
  present := company.disk.exists? (.ofText location)
  saved := (company.session turn.holder).saved? location turn.order turn.step

/-- Takes turns one after another. -/
def run (location : String) : List Turn → Company → List Record × Company
  | [], company => ([], company)
  | turn :: rest, company =>
      let (records, last) := run location rest (company.take location turn).2
      (company.record location turn :: records, last)

/-- The store that was saved last. -/
def lastSaved (start : Store) (records : List Record) : Store :=
  (records.filterMap Record.saved).getLastD start

/-- What one holder is told. -/
def told (holder : Nat) (records : List Record) : List Observation :=
  (records.filter (·.holder == holder)).map Record.observation

/-- The visits of one holder. -/
def visits (holder : Nat) : (saved : Store) → List Record → List Visit
  | _, [] => []
  | saved, record :: rest =>
      let later := visits holder (record.saved.getD saved) rest
      if record.holder == holder then .ofStep record.present saved record.step :: later else later

variable {location : String} {company : Company} {saved : Store}

theorem lastSaved_cons (start : Store) (record : Record) (rest : List Record) :
    lastSaved start (record :: rest) = lastSaved (record.saved.getD start) rest := by
  rw [lastSaved, lastSaved, List.filterMap_cons]
  cases record.saved with
  | none => rfl
  | some store => exact List.getLastD_cons

theorem told_cons_self {record : Record} {holder : Nat} (same : record.holder = holder)
    (rest : List Record) :
    told holder (record :: rest) = record.observation :: told holder rest := by
  rw [told, List.filter_cons, if_pos (beq_iff_eq.mpr same), List.map_cons, told]

theorem told_cons_of_ne {record : Record} {holder : Nat} (different : record.holder ≠ holder)
    (rest : List Record) : told holder (record :: rest) = told holder rest := by
  rw [told, List.filter_cons, if_neg (by simpa using different), told]

theorem visits_cons_self {record : Record} {holder : Nat} (same : record.holder = holder)
    (saved : Store) (rest : List Record) :
    visits holder saved (record :: rest) =
      .ofStep record.present saved record.step :: visits holder (record.saved.getD saved) rest :=
  if_pos (beq_iff_eq.mpr same)

theorem visits_cons_of_ne {record : Record} {holder : Nat} (different : record.holder ≠ holder)
    (saved : Store) (rest : List Record) :
    visits holder saved (record :: rest) = visits holder (record.saved.getD saved) rest :=
  if_neg (by simpa using different)

/-- The location holds a store, and every handle is one of the location. -/
structure Keeps (location : String) (company : Company) (saved : Store) : Prop where
  holds : Session.Holds location company.disk saved
  path : ∀ holder engine, company.handles holder = some engine → engine.path = location
  ready : ∀ holder engine, company.handles holder = some engine →
    Session.Ready location company.disk

theorem keeps_gather {disk : Disk} (holds : Session.Holds location disk saved) :
    Keeps location (gather disk) saved :=
  ⟨holds, nofun, nofun⟩

theorem Keeps.shares (keeps : Keeps location company saved) (holder : Nat) :
    Session.Shares location (company.session holder) saved :=
  ⟨keeps.holds, keeps.path holder, keeps.ready holder⟩

/-- A turn goes as by itself for its holder. -/
theorem Keeps.goes (keeps : Keeps location company saved) (turn : Turn)
    (fits : ∀ store ∈ (company.record location turn).saved, store.Fits)
    (quiet : (company.record location turn).observation.isSystemFailure = false) :
    Session.Goes location (company.session turn.holder)
      ((company.session turn.holder).step turn.order.save location turn.step)
      (.ofStep (company.record location turn).present saved turn.step)
      ((company.record location turn).saved.getD saved) :=
  (keeps.shares turn.holder).step turn.step fits quiet

/-- After a turn the location holds the store that was saved last. -/
theorem Keeps.take (keeps : Keeps location company saved) (turn : Turn)
    (fits : ∀ store ∈ (company.record location turn).saved, store.Fits)
    (quiet : (company.record location turn).observation.isSystemFailure = false) :
    Keeps location (company.take location turn).2
      ((company.record location turn).saved.getD saved) := by
  have goes := keeps.goes turn fits quiet
  refine ⟨goes.shares.holds, ?_, ?_⟩
  · intro holder engine held
    by_cases same : holder = turn.holder
    · exact goes.shares.path engine (by simpa [Company.take, same] using held)
    · exact keeps.path holder engine (by simpa [Company.take, same] using held)
  · intro holder engine held
    by_cases same : holder = turn.holder
    · exact goes.shares.ready engine (by simpa [Company.take, same] using held)
    · exact goes.stays (keeps.ready holder engine (by simpa [Company.take, same] using held))

/-- What the holder of a turn is told, and its handle afterwards, is as by itself. -/
theorem Keeps.alone (keeps : Keeps location company saved) (turn : Turn)
    (fits : ∀ store ∈ (company.record location turn).saved, store.Fits)
    (quiet : (company.record location turn).observation.isSystemFailure = false) :
    (Visit.ofStep (company.record location turn).present saved
        (company.record location turn).step).alone location
        ((company.handles turn.holder).map Session.idealHandle) =
      ((company.record location turn).observation,
        ((company.take location turn).2.handles turn.holder).map Session.idealHandle) := by
  have goes := keeps.goes turn fits quiet
  refine Prod.ext goes.told.symm ?_
  have taken : (company.take location turn).2.handles turn.holder =
      ((company.session turn.holder).step turn.order.save location turn.step).2.handle :=
    if_pos rfl
  rw [taken]
  exact goes.handle.symm

/-- What one holder is told in a run, and its handle afterwards, is as by itself. -/
structure Private (location : String) (holder : Nat) (held : Option IdealHandle) (saved : Store)
    (records : List Record) (after : Company) : Prop where
  told : told holder records = (Visit.replay location (visits holder saved records) held).1
  handle : (after.handles holder).map Session.idealHandle =
    (Visit.replay location (visits holder saved records) held).2

theorem Private.cons {last : Company} {rest : List Record} {turn : Turn} {holder : Nat}
    (keeps : Keeps location company saved)
    (fits : ∀ store ∈ (company.record location turn).saved, store.Fits)
    (quiet : (company.record location turn).observation.isSystemFailure = false)
    (later : Private location holder
      (((company.take location turn).2.handles holder).map Session.idealHandle)
      ((company.record location turn).saved.getD saved) rest last) :
    Private location holder ((company.handles holder).map Session.idealHandle) saved
      (company.record location turn :: rest) last := by
  by_cases same : (company.record location turn).holder = holder
  · have alone := keeps.alone turn fits quiet
    have mine : turn.holder = holder := same
    rw [mine] at alone
    constructor
    · rw [told_cons_self same, visits_cons_self same, Visit.replay_cons, alone, later.told]
    · rw [visits_cons_self same, Visit.replay_cons, alone, later.handle]
  · have kept : (company.take location turn).2.handles holder = company.handles holder :=
      if_neg (Ne.symm same)
    rw [kept] at later
    constructor
    · rw [told_cons_of_ne same, visits_cons_of_ne same]
      exact later.told
    · rw [visits_cons_of_ne same]
      exact later.handle

/-- A run keeps the location, and goes as by itself for each holder. -/
theorem Keeps.run (keeps : Keeps location company saved) {turns : List Turn}
    (fits : ∀ record ∈ (run location turns company).1, ∀ store ∈ record.saved, store.Fits)
    (quiet : ∀ record ∈ (run location turns company).1,
      record.observation.isSystemFailure = false) :
    Keeps location (Company.run location turns company).2
        (lastSaved saved (Company.run location turns company).1) ∧
      ∀ holder, Private location holder ((company.handles holder).map Session.idealHandle) saved
        (Company.run location turns company).1 (Company.run location turns company).2 := by
  induction turns generalizing company saved with
  | nil => exact ⟨keeps, fun _ => ⟨rfl, rfl⟩⟩
  | cons turn rest ih =>
      obtain ⟨fitsFirst, fitsLater⟩ := List.forall_mem_cons.mp fits
      obtain ⟨first, later⟩ := List.forall_mem_cons.mp quiet
      obtain ⟨kept, others⟩ := ih (keeps.take turn fitsFirst first) fitsLater later
      refine ⟨?_, fun holder => (others holder).cons keeps fitsFirst first⟩
      rw [← lastSaved_cons] at kept
      exact kept

/-- What is so at a location after some turns, where a store was saved before them. The snapshot is
the memory that was saved last, and without a snapshot that is empty; a handle that is opened gets
it; and each holder is told what it is told by itself. -/
structure Common (location : String) (saved : Store) (records : List Record) (company : Company) :
    Prop where
  snapshot : company.disk.exists? (SnapshotFile.path location) = true →
    ∃ content, company.disk.readFile (SnapshotFile.path location) = .ok content ∧
      Snapshot.decode content = .ok (lastSaved saved records)
  absent : (Session.provided location company.disk).exists? (SnapshotFile.path location) = false →
    lastSaved saved records = Store.empty
  opening : ∀ (turn : Turn) (syncWrites createIfMissing : Bool),
    turn.step = .openHandle syncWrites createIfMissing →
    (company.take location turn).1.isSystemFailure = false →
      if company.disk.exists? (.ofText location) || createIfMissing then
        (company.take location turn).1 = .opened (.ok ()) ∧
          ((company.take location turn).2.handles turn.holder).map MemoryEngine.store =
            some (lastSaved saved records)
      else (company.take location turn).1 =
        .opened (.error (.invalidOperation (.locationMissing location)))
  alone : ∀ holder, Private location holder none saved records company

theorem Keeps.opening (keeps : Keeps location company saved) {turn : Turn}
    {syncWrites createIfMissing : Bool} (opens : turn.step = .openHandle syncWrites createIfMissing)
    (quiet : (company.take location turn).1.isSystemFailure = false) :
    if company.disk.exists? (.ofText location) || createIfMissing then
      (company.take location turn).1 = .opened (.ok ()) ∧
        ((company.take location turn).2.handles turn.holder).map MemoryEngine.store = some saved
    else (company.take location turn).1 =
      .opened (.error (.invalidOperation (.locationMissing location))) := by
  have unsaved : (company.record location turn).saved = none := by
    simp [record, Session.saved?, Session.saves, opens]
  have alone := keeps.alone turn (by simp [unsaved]) quiet
  have opened : (company.record location turn).step = .openHandle syncWrites createIfMissing :=
    opens
  rw [opened, Visit.alone_openHandle] at alone
  split
  · rename_i allowed
    have present : ((company.record location turn).present || createIfMissing) = true := allowed
    rw [if_pos present] at alone
    obtain ⟨observed, held⟩ := Prod.mk.inj alone
    refine ⟨observed.symm, ?_⟩
    cases taken : (company.take location turn).2.handles turn.holder with
    | none =>
        rw [taken] at held
        cases held
    | some engine =>
        rw [taken] at held
        exact congrArg some (congrArg IdealHandle.memory (Option.some.inj held)).symm
  · rename_i refused
    have missing : ¬((company.record location turn).present || createIfMissing) = true := refused
    rw [if_neg missing] at alone
    exact (Prod.mk.inj alone).1.symm

/-- **Handles at one location share its snapshot and nothing else.** Whatever turns the holders
take, in either mode and in whatever order entries are written: as long as the system does not fail,
the snapshot is the whole memory of the handle that saved last, every handle is opened with it, and
each holder is told what it would be told by itself. -/
theorem snapshot_of_last_saved (location : String) (disk : Disk) (saved : Store)
    (holds : Session.Holds location disk saved) (turns : List Turn)
    (fits : ∀ record ∈ (run location turns (gather disk)).1, ∀ store ∈ record.saved, store.Fits)
    (quiet : ∀ record ∈ (run location turns (gather disk)).1,
      record.observation.isSystemFailure = false) :
    Common location saved (run location turns (gather disk)).1
      (run location turns (gather disk)).2 := by
  obtain ⟨keeps, alone⟩ := (keeps_gather holds).run fits quiet
  exact {
    snapshot := keeps.holds.decode
    absent := fun missing => by
      have loaded := keeps.holds
      rw [Session.Holds, SnapshotFile.load_of_not_exists? missing] at loaded
      exact (Except.ok.inj loaded).symm
    opening := fun turn syncWrites createIfMissing opens => keeps.opening opens
    alone := alone }

/-- Two holders save over each other, and a third opens a handle in between. -/
theorem snapshot_of_last_saved_two_holders :
    let turn (holder : Nat) (step : Step) : Turn := ⟨holder, .byKey, step⟩
    let turns := [turn 0 (.openHandle false false), turn 0 (.openHandle false true),
      turn 1 (.openHandle true true), turn 0 (.call (.put [1] [2])),
      turn 1 (.call (.put [3] [4])), turn 0 (.call .close), turn 2 (.openHandle true false),
      turn 2 (.call (.get [3])), turn 2 .drop, turn 1 (.call (.get [3])),
      turn 1 (.call (.delete [5])), turn 1 .size, turn 0 (.call (.get [1])),
      turn 1 (.call (.put [6] []))]
    let ran := run "db" turns (gather Disk.empty)
    (Session.Holds "db" Disk.empty Store.empty ∧
        (∀ record ∈ ran.1, ∀ store ∈ record.saved, store.Fits) ∧
        ∀ record ∈ ran.1, record.observation.isSystemFailure = false) ∧
      Common "db" Store.empty ran.1 ran.2 ∧
      lastSaved Store.empty ran.1 = (Store.empty.insert [3] [4]).insert [6] [] ∧
      told 2 ran.1 = [.opened (.ok ()), .answered (.get [3]) (.error .notFound), .dropped] := by
  intro turn turns ran
  have holds : Session.Holds "db" Disk.empty Store.empty := by decide +kernel
  have fits : ∀ record ∈ ran.1, ∀ store ∈ record.saved, store.Fits := by decide +kernel
  have quiet : ∀ record ∈ ran.1, record.observation.isSystemFailure = false := by
    decide +kernel
  exact ⟨⟨holds, fits, quiet⟩,
    snapshot_of_last_saved "db" Disk.empty Store.empty holds turns fits quiet,
    by decide +kernel, by decide +kernel⟩

end Company

end StoreTrial
