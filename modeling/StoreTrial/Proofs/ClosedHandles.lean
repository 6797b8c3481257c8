import StoreTrial.Proofs.FailedSaves

/-! # Handles that were to be closed

A handle counts as closed from the first call that was to close it, whatever came of the
attempt to save (`StoreTrial.Session.closed_iff_closing_succeeded_iff`). After a broken
attempt it therefore refuses every call, the repeated closing included, and the location
is left with what it held.
-/

namespace StoreTrial

/-- What came of closing the handle, if that was asked. -/
def Observation.closing? : Observation → Option (Except Failure Unit)
  | .answered .close result => some result
  | _ => none

/-- What came of every attempt to close the handle. -/
def Observation.closings (observations : List Observation) : List (Except Failure Unit) :=
  observations.filterMap closing?

/-- Whether the holder is told that the handle is closed. -/
def Observation.refuses (observation : Observation) : Prop :=
  observation.failure? = some .closed ∨ observation = .closedness true

/-- A handle that refuses to be closed says that it is closed. -/
theorem Observation.closing?_of_refuses {observation : Observation} (refused : observation.refuses)
    {outcome : Except Failure Unit} (asked : observation.closing? = some outcome) :
    outcome = .error .closed := by
  cases observation with
  | answered request result =>
      cases request with
      | close =>
          cases asked
          rcases refused with failed | told
          · cases outcome with
            | ok _ => cases failed
            | error failure =>
                cases failed
                rfl
          · cases told
      | put key value | get key | delete key | contains key => cases asked
  | opened result | sized result | emptiness result | closedness closed | dropped | idle =>
      cases asked

theorem ok_mem_cons_iff {first : Except Failure Unit} {later : List (Except Failure Unit)}
    (refusals : ∀ outcome ∈ later, outcome = .error .closed) :
    .ok () ∈ first :: later ↔ first = .ok () := by
  constructor
  · intro member
    rcases List.mem_cons.mp member with same | refused
    · exact same.symm
    · cases refusals _ refused
  · rintro rfl
    exact List.mem_cons_self

namespace Session

variable {location : String} {engine : MemoryEngine} {disk : Disk}

/-- A closed handle refuses, and stays as it is. -/
theorem step_of_closed (location : String) (disk : Disk) (closed : engine.closed = true)
    (saving : String → MemoryEngine.Save Disk) {next : Step} (stays : next.staysOn = true) :
    (step saving location ⟨some engine, disk⟩ next).2 = ⟨some engine, disk⟩ ∧
      (step saving location ⟨some engine, disk⟩ next).1.refuses := by
  have refused : engine.requireOpen = .error .closed := by
    rw [MemoryEngine.requireOpen, if_pos closed]
  cases next with
  | openHandle syncWrites createIfMissing => cases stays
  | drop => cases stays
  | call request =>
      simp only [step, MemoryEngine.call_of_closed _ closed]
      exact ⟨trivial, .inl rfl⟩
  | size =>
      simp only [step, ask, MemoryEngine.size, refused]
      exact ⟨trivial, .inl rfl⟩
  | isEmpty =>
      simp only [step, ask, MemoryEngine.isEmpty, MemoryEngine.size, refused]
      exact ⟨trivial, .inl rfl⟩
  | isClosed =>
      simp only [step, ask, closed]
      exact ⟨trivial, .inr rfl⟩

theorem run_of_closed (location : String) (disk : Disk) (closed : engine.closed = true)
    {turns : List (SaveAttempt location × Step)} (stay : ∀ turn ∈ turns, turn.2.staysOn = true) :
    after SaveAttempt.save location turns ⟨some engine, disk⟩ = ⟨some engine, disk⟩ ∧
      ∀ observation ∈ (run SaveAttempt.save location turns ⟨some engine, disk⟩).1,
        observation.refuses := by
  induction turns with
  | nil => exact ⟨rfl, by simp [run]⟩
  | cons turn rest ih =>
      obtain ⟨first, others⟩ := List.forall_mem_cons.mp stay
      obtain ⟨same, refused⟩ := step_of_closed location disk closed turn.1.save first
      obtain ⟨reached, refusals⟩ := ih others
      rw [after_cons, observations_cons, same]
      exact ⟨reached, List.forall_mem_cons.mpr ⟨refused, refusals⟩⟩

/-- A step on an open handle that is not to close it leaves it open. -/
theorem step_of_open (location : String) (disk : Disk) (opened : engine.closed = false)
    (saving : String → MemoryEngine.Save Disk) {next : Step} (stays : next.staysOn = true)
    (other : next ≠ .call .close) :
    ∃ called changed,
      (step saving location ⟨some engine, disk⟩ next).2 = ⟨some called, changed⟩ ∧
      called.path = engine.path ∧ called.closed = false ∧
      (step saving location ⟨some engine, disk⟩ next).1.closing? = none := by
  cases next with
  | openHandle syncWrites createIfMissing => cases stays
  | drop => cases stays
  | size => exact ⟨engine, disk, rfl, rfl, opened, rfl⟩
  | isEmpty => exact ⟨engine, disk, rfl, rfl, opened, rfl⟩
  | isClosed => exact ⟨engine, disk, rfl, rfl, opened, rfl⟩
  | call request =>
      have asked : request ≠ .close := fun same => other (congrArg Step.call same)
      have performed : (engine.perform (saving engine.path) disk request).2.1 =
          { engine with store := request.applied engine.store } := (MemoryEngine.perform_eq rfl).1
      simp only [step, MemoryEngine.call_of_open opened asked]
      refine ⟨_, _, rfl, ?_, ?_, ?_⟩
      · rw [performed]
      · rw [performed]
        exact opened
      · cases request with
        | close => exact absurd rfl asked
        | put key value | get key | delete key | contains key => rfl

/-- A call that is to close an open handle closes it, and answers how saving went. -/
theorem step_close_of_open (path : engine.path = location) (opened : engine.closed = false)
    (disk : Disk) (attempt : SaveAttempt location) :
    ∃ outcome changed, (step attempt.save location ⟨some engine, disk⟩ (.call .close)) =
        (.answered .close outcome, ⟨some { engine with closed := true }, changed⟩) ∧
      (outcome = .ok () → engine.store.Fits →
        SnapshotFile.load location changed = .ok engine.store) := by
  simp only [step, MemoryEngine.call_close_of_open opened, path]
  refine ⟨_, _, rfl, fun saved fits => ?_⟩
  exact SaveAttempt.load_of_save_eq_ok fits (Prod.ext saved rfl)

/-- An open handle stays open until it is to be closed. Then it is closed; it has answered
the first time how saving went, and refused ever after. -/
theorem run_of_open (path : engine.path = location) (opened : engine.closed = false)
    {turns : List (SaveAttempt location × Step)} (stay : ∀ turn ∈ turns, turn.2.staysOn = true) :
    let observations := (run SaveAttempt.save location turns ⟨some engine, disk⟩).1
    ∃ current now, after SaveAttempt.save location turns ⟨some engine, disk⟩ = ⟨some current, now⟩ ∧
      ((current.closed = false ∧ (∀ turn ∈ turns, turn.2 ≠ .call .close) ∧
          Observation.closings observations = []) ∨
        (current.closed = true ∧ (∃ turn ∈ turns, turn.2 = .call .close) ∧
          ∃ first later, Observation.closings observations = first :: later ∧
            (∀ outcome ∈ later, outcome = .error .closed) ∧
            (first = .ok () → current.store.Fits →
              SnapshotFile.load location now = .ok current.store))) := by
  induction turns generalizing engine disk with
  | nil => exact ⟨engine, disk, rfl, .inl ⟨opened, by simp, rfl⟩⟩
  | cons turn rest ih =>
      obtain ⟨attempt, next⟩ := turn
      obtain ⟨stays, others⟩ := List.forall_mem_cons.mp stay
      by_cases closing : next = .call .close
      · subst closing
        obtain ⟨outcome, changed, moved, saved⟩ := step_close_of_open path opened disk attempt
        let shut : MemoryEngine := { engine with closed := true }
        obtain ⟨reached, refusals⟩ :=
          run_of_closed location changed (show shut.closed = true from rfl) others
        refine ⟨shut, changed, ?_, .inr ⟨rfl, ⟨_, List.mem_cons_self, rfl⟩, outcome, ?_⟩⟩
        · rw [after_cons, moved, reached]
        · rw [observations_cons, moved]
          refine ⟨_, rfl, ?_, saved⟩
          intro later asked
          obtain ⟨observation, observed, told⟩ := List.mem_filterMap.mp asked
          exact Observation.closing?_of_refuses (refusals observation observed) told
      · obtain ⟨called, changed, moved, samePath, stillOpen, silent⟩ :=
          step_of_open location disk opened attempt.save stays closing
        obtain ⟨current, now, reached, ending⟩ := ih (samePath.trans path) stillOpen others
        have unheard : Observation.closings
            (run SaveAttempt.save location ((attempt, next) :: rest) ⟨some engine, disk⟩).1 =
            Observation.closings
              (run SaveAttempt.save location rest ⟨some called, changed⟩).1 := by
          rw [observations_cons, moved]
          exact List.filterMap_cons_none silent
        refine ⟨current, now, ?_, ?_⟩
        · rw [after_cons, moved, reached]
        · rw [unheard]
          rcases ending with ⟨stillOpen, unasked, silence⟩ | ⟨closed, asked, heard⟩
          · exact .inl ⟨stillOpen, List.forall_mem_cons.mpr ⟨closing, unasked⟩, silence⟩
          · obtain ⟨last, member, same⟩ := asked
            exact .inr ⟨closed, ⟨last, List.mem_cons_of_mem _ member, same⟩, heard⟩

/-- **When closed means successfully closed.** A handle is opened and used in any way, while
attempts to save fail at will. Afterwards it says that it is closed exactly if it was ever
to be closed. That is so exactly if closing has succeeded, unless the first attempt failed:
closing succeeds at once or never. Where it has succeeded, the snapshot is that of the
memory. A closed handle refuses every call, and neither it nor the location changes. -/
theorem closed_iff_closing_succeeded_iff {options : EngineOptions} {start : Disk}
    (opened : MemoryEngine.openAt location options start = (.ok engine, disk))
    (turns : List (SaveAttempt options.path × Step))
    (stay : ∀ turn ∈ turns, turn.2.staysOn = true) :
    let closings :=
      Observation.closings (run SaveAttempt.save options.path turns ⟨some engine, disk⟩).1
    ∃ current now,
      after SaveAttempt.save options.path turns ⟨some engine, disk⟩ = ⟨some current, now⟩ ∧
      (current.closed = true ↔ ∃ turn ∈ turns, turn.2 = .call .close) ∧
      ((current.closed = true ↔ .ok () ∈ closings) ↔
        ∀ failure, closings.head? ≠ some (.error failure)) ∧
      (.ok () ∈ closings → current.store.Fits →
        SnapshotFile.load options.path now = .ok current.store) ∧
      (current.closed = true → ∀ later : List (SaveAttempt options.path × Step),
        (∀ turn ∈ later, turn.2.staysOn = true) →
        after SaveAttempt.save options.path later ⟨some current, now⟩ = ⟨some current, now⟩ ∧
          ∀ observation ∈ (run SaveAttempt.save options.path later ⟨some current, now⟩).1,
            observation.refuses) := by
  intro closings
  obtain ⟨path, _, unclosed, _⟩ := MemoryEngine.eq_of_openAt opened
  obtain ⟨current, now, reached, ending⟩ := run_of_open path unclosed stay
  refine ⟨current, now, reached, ?_, ?_, ?_, fun closed later stays =>
    run_of_closed options.path now closed stays⟩
  · rcases ending with ⟨stillOpen, unasked, _⟩ | ⟨closed, asked, _⟩
    · exact ⟨fun closed => absurd closed (by simp [stillOpen]),
        fun ⟨turn, member, asked⟩ => absurd asked (unasked turn member)⟩
    · exact ⟨fun _ => asked, fun _ => closed⟩
  · rcases ending with ⟨stillOpen, _, silence⟩ | ⟨closed, _, first, later, heard, refusals, _⟩
    · simp [closings, stillOpen, silence]
    · simp only [closings, heard, ok_mem_cons_iff refusals, closed, true_iff, List.head?_cons,
        Option.some.injEq, ne_eq]
      cases first with
      | ok _ => simp
      | error failure => simp
  · intro succeeded
    rcases ending with ⟨_, _, silence⟩ | ⟨_, _, first, later, heard, refusals, saved⟩
    · simp [closings, silence] at succeeded
    · rw [show closings = first :: later from heard, ok_mem_cons_iff refusals] at succeeded
      exact saved succeeded

/-- A put cannot be saved, and then closing saves it. -/
theorem closed_iff_closing_succeeded_at_once :
    let options : EngineOptions := ⟨"db", true, true⟩
    let engine : MemoryEngine := ⟨"db", true, Store.empty, false⟩
    let disk := (Disk.empty.makeDirectories (.ofText "db")).2
    let turns : List (SaveAttempt "db" × Step) :=
      [(.broken .isDirectory id fun _ => rfl, .call (.put [107] [118])),
        (.written .byKey, .call .close), (.written .byKey, .call .close)]
    let later : List (SaveAttempt "db" × Step) := [(.written .byKey, .call (.get [107]))]
    let current : MemoryEngine := ⟨"db", true, Store.empty.insert [107] [118], true⟩
    let now := (after SaveAttempt.save "db" turns ⟨some engine, disk⟩).disk
    let closings := Observation.closings (run SaveAttempt.save "db" turns ⟨some engine, disk⟩).1
    (MemoryEngine.openAt "db" options Disk.empty = (.ok engine, disk) ∧
      (∀ turn ∈ turns, turn.2.staysOn = true) ∧ (∀ turn ∈ later, turn.2.staysOn = true)) ∧
    closings = [.ok (), .error .closed] ∧
      after SaveAttempt.save "db" turns ⟨some engine, disk⟩ = ⟨some current, now⟩ ∧
      (current.closed = true ↔ .ok () ∈ closings) ∧
      SnapshotFile.load "db" now = .ok current.store ∧
      ∀ observation ∈ (run SaveAttempt.save "db" later ⟨some current, now⟩).1,
        observation.refuses := by
  intro options engine disk turns later current now closings
  have opened : MemoryEngine.openAt "db" options Disk.empty = (.ok engine, disk) := by
    decide +kernel
  have stay : ∀ turn ∈ turns, turn.2.staysOn = true := by decide +kernel
  have stays : ∀ turn ∈ later, turn.2.staysOn = true := by decide +kernel
  have told : closings = [.ok (), .error .closed] := by decide +kernel
  have reached : after SaveAttempt.save "db" turns ⟨some engine, disk⟩ = ⟨some current, now⟩ := by
    decide +kernel
  obtain ⟨last, left, same, _, agree, saved, refusing⟩ :=
    closed_iff_closing_succeeded_iff opened turns stay
  cases reached.symm.trans same
  have succeeded : .ok () ∈ closings := by simp [told]
  have unfailed : ∀ failure, closings.head? ≠ some (.error failure) := by simp [told]
  exact ⟨⟨opened, stay, stays⟩, told, reached, agree.mpr unfailed,
    saved succeeded (by decide +kernel), (refusing rfl later stays).2⟩

/-- Being closed does not mean that closing has succeeded: the first attempt finds a
directory in the place of the draft, the next is refused, and nothing is saved. -/
theorem closed_without_closing_succeeded :
    let turns : List (SaveAttempt "db" × Step) := [(.written .byKey, .openHandle false true),
      (.written .byKey, .call (.put [107] [118])),
      (.broken .isDirectory id fun _ => rfl, .call .close), (.written .byKey, .isClosed),
      (.written .byKey, .call (.get [107])), (.written .byKey, .call .close)]
    let (observations, last) := run SaveAttempt.save "db" turns ⟨none, Disk.empty⟩
    observations.map Observation.failure? =
        [none, none, some (.io .isDirectory), none, some .closed, some .closed] ∧
      last.handle = some ⟨"db", false, Store.empty.insert [107] [118], true⟩ ∧
      Observation.closings observations = [.error (.io .isDirectory), .error .closed] ∧
      SnapshotFile.load "db" last.disk = .ok Store.empty := by
  decide +kernel

end Session

end StoreTrial
