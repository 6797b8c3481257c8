import StoreTrial.Proofs.EngineCalls
import StoreTrial.Proofs.LeaseDialogues
import StoreTrial.Proofs.MountedEngines

/-! # Ends of leases

However a trial parts with its lease, and whatever was done with the engine before, the engine is
closed once more and then the location is removed once; a failure is noted exactly if the engine
could not be closed and was not closed already. Only a close that panics keeps the location from
being removed. A memory engine refuses every call from then on
(`StoreTrial.Lease.parts_once`).
-/

namespace StoreTrial

namespace Lease

/-- How a trial parts with its lease: it lets go of it, drops it, aborts while it holds it, or is
unwound by a panic of its own. -/
inductive Parting where
  | teardown
  | drop
  | abort (message : String)
  | unwind (message : String)
  deriving DecidableEq

def part (lease : Lease) : Parting → Dialogue (Outcome Unit × Lease)
  | .teardown => lease.teardown
  | .drop => lease.release
  | .abort message => lease.abort message
  | .unwind message => lease.release.bind fun ended => .done (.error (.panicked message), ended.2)

/-- What is noted before the lease is given back. -/
def partingNotes (lease : Lease) : Parting → List Exchange
  | .abort message => [⟨.note lease.owner.ledger message, ()⟩]
  | _ => []

/-- How the trial goes on after its lease was given back. -/
def parted (lease : Lease) (ending : Outcome Unit) : Parting → Outcome Unit
  | .teardown | .drop => ending
  | .abort message => .error (.panicked (lease.owner.abortText message))
  | .unwind message => .error (.panicked message)

variable {σ α : Type} {answer : (question : Question) → σ → question.Reply × σ}

/-- In every way of parting the lease is given back once. -/
theorem does_part {lease : Lease} (fresh : lease.released = false) (parting : Parting)
    (state : σ) :
    ∃ closing cleared after, Dialogue.Does answer (lease.part parting) state
      (lease.partingNotes parting ++
        ⟨.call lease.handle .close, closing⟩ :: lease.clearing closing cleared)
      (lease.parted (closed closing) parting, { lease with released := true }) after := by
  cases parting with
  | teardown =>
      obtain ⟨closing, cleared, after, releases⟩ := does_release answer fresh state
      exact ⟨closing, cleared, after, does_teardown releases⟩
  | drop => exact does_release answer fresh state
  | abort message =>
      obtain ⟨closing, cleared, after, releases⟩ := does_release answer fresh _
      exact ⟨closing, cleared, after, does_abort state releases⟩
  | unwind message =>
      obtain ⟨closing, cleared, after, releases⟩ := does_release answer fresh state
      refine ⟨closing, cleared, after, ?_⟩
      rw [← List.append_nil (_ ++ _)]
      exact releases.bind (.done _ _)

/-- One failure is noted about a close, or none. -/
theorem closeNotes_eq_nil_or (lease : Lease) (closing : Outcome Unit) :
    lease.closeNotes closing = [] ∨
      ∃ message, lease.closeNotes closing = [⟨.note lease.owner.ledger message, ()⟩] := by
  match closing with
  | .ok () => exact .inl rfl
  | .error (.panicked message) => exact .inl rfl
  | .error (.failed failure) =>
      rw [closeNotes]
      split
      · exact .inl rfl
      · exact .inr ⟨_, rfl⟩

/-- A failure is noted exactly about a close that failed on an engine that was not closed
already. -/
theorem closeNotes_ne_nil_iff (lease : Lease) (closing : Outcome Unit) :
    lease.closeNotes closing ≠ [] ↔
      ∃ failure, closing = .error (.failed failure) ∧ failure.kind ≠ .closed := by
  match closing with
  | .ok () => simp [closeNotes]
  | .error (.panicked message) => simp [closeNotes]
  | .error (.failed failure) =>
      by_cases already : failure.kind = .closed
      · simp [closeNotes, Failure.isClosed, already]
      · simp [closeNotes, Failure.isClosed, already]

/-- A trial that parts with its lease after some use closes the engine once. Unless the close
panics, at most one failure is noted about it, and then the location is removed once. The lease is
given back for good. -/
structure PartsOnce (answer : (question : Question) → σ → question.Reply × σ) (lease : Lease)
    (use : Dialogue α) (parting : Parting) (before : σ) : Prop where
  deeds : ∃ (closing : Outcome Unit) (last : List Exchange),
    (use.bind fun _ => lease.part parting).deeds answer before =
      use.deeds answer before ++ lease.partingNotes parting ++
        ⟨.call lease.handle .close, closing⟩ :: last ∧
    ((∀ message, closing ≠ .error (.panicked message)) →
      ∃ noted cleared, last = noted ++ [⟨.clear lease.location, cleared⟩] ∧
        (noted = [] ∨ ∃ message, noted = [⟨.note lease.owner.ledger message, ()⟩]) ∧
        (noted ≠ [] ↔
          ∃ failure, closing = .error (.failed failure) ∧ failure.kind ≠ .closed)) ∧
    ((∃ message, closing = .error (.panicked message)) → last = [])
  again : ∀ later : σ,
    let left := ((use.bind fun _ => lease.part parting).run answer before).1.2
    Dialogue.Does answer left.release later [] (.ok (), left) later

theorem partsOnce {lease : Lease} (fresh : lease.released = false) (use : Dialogue α)
    (parting : Parting) (before : σ) : PartsOnce answer lease use parting before := by
  have uses : Dialogue.Does answer use before (use.deeds answer before)
      (use.run answer before).1 (use.run answer before).2 := ⟨rfl, rfl⟩
  obtain ⟨closing, cleared, after, parts⟩ := does_part fresh parting (use.run answer before).2
  have whole : Dialogue.Does answer (use.bind fun _ => lease.part parting) before _ _ after :=
    uses.bind parts
  refine ⟨⟨closing, lease.clearing closing cleared, ?_, ?_, ?_⟩, ?_⟩
  · rw [whole.deeds, List.append_assoc]
  · intro returns
    exact ⟨lease.closeNotes closing, cleared, clearing_of_forall_ne returns lease cleared,
      lease.closeNotes_eq_nil_or closing, lease.closeNotes_ne_nil_iff closing⟩
  · rintro ⟨message, rfl⟩
    rfl
  · intro later
    rw [whole.run]
    exact does_release_again answer rfl later

end Lease

theorem MemoryEngine.closed_of_call_close {μ : Type} (save : Save μ) (engine : MemoryEngine)
    (medium : μ) : (engine.call save medium .close).2.1.closed = true := by
  cases closed : engine.closed with
  | true => rw [call_of_closed save closed, closed]
  | false => rw [call_close_of_open closed]

namespace World

variable {world left : World} {handle : Handle} {engine : MemoryEngine}

/-- A memory engine is behind a handle, and no fault is planted before it. -/
def Bare (world : World) (handle : Handle) (engine : MemoryEngine) : Prop :=
  ∃ rig, world.engines[handle]? = some ⟨engine, rig⟩ ∧
    ∀ opener, rig = some opener → (world.rig opener).faults = []

theorem Bare.of_keeps (bare : world.Bare handle engine) (keeps : world.Keeps handle left) :
    left.Bare handle engine := by
  obtain ⟨rig, mounted, plain⟩ := bare
  refine ⟨rig, keeps.engines.trans mounted, fun opener same => ?_⟩
  exact (congrArg Prod.fst (keeps.planted opener)).trans (plain opener same)

/-- A call on the handle is answered by the engine, which stays behind it. -/
theorem Bare.call (bare : world.Bare handle engine) (request : Request) :
    (world.call handle request).1 = .ofResult (engine.answer world.disk request).1 ∧
      (world.call handle request).2.Bare handle (engine.answer world.disk request).2.1 := by
  obtain ⟨rig, mounted, plain⟩ := bare
  obtain ⟨left, calls, remounted, _, planted⟩ := call_of_unplanted mounted plain rfl
  rw [calls]
  refine ⟨rfl, rig, remounted, fun opener same => ?_⟩
  exact (congrArg Prod.fst (planted opener)).trans (plain opener same)

/-- Whatever is asked, the engine stays behind its handle. It is closed when that is asked of it,
and does not change any more then. -/
theorem Bare.answer (bare : world.Bare handle engine) (question : Question) :
    ∃ called, (world.answer question).2.Bare handle called ∧
      (engine.closed = true → called = engine) ∧
      (question = .call handle .close → called.closed = true) := by
  have inside : handle < world.engines.size := by
    obtain ⟨rig, mounted, _⟩ := bare
    exact (Array.getElem?_eq_some_iff.mp mounted).1
  cases question with
  | call other request =>
      by_cases same : handle = other
      · subst same
        refine ⟨_, (bare.call request).2, fun closed => ?_, fun closing => ?_⟩
        · rw [MemoryEngine.answer, MemoryEngine.call_of_closed _ closed]
        · obtain rfl : request = .close := (Question.call.inj closing).2
          exact MemoryEngine.closed_of_call_close _ engine world.disk
      · refine ⟨engine, bare.of_keeps (keeps_call world same request), fun _ => rfl, ?_⟩
        exact fun closing => absurd (Question.call.inj closing).1.symm same
  | openAt opener location options =>
      refine ⟨engine, bare.of_keeps (keeps_openAt world inside opener location options),
        fun _ => rfl, fun closing => ?_⟩
      cases closing
  | clear location | clock | instant | log event | note ledger message | drain ledger =>
      refine ⟨engine, bare, fun _ => rfl, fun closing => ?_⟩
      cases closing

variable {α : Type}

/-- After a dialogue in which the engine was to be closed it is closed. -/
theorem Bare.run (bare : world.Bare handle engine) (dialogue : Dialogue α) :
    ∃ called, (dialogue.run World.answer world).2.Bare handle called ∧
      (engine.closed = true → called = engine) ∧
      ∀ closing, (⟨.call handle .close, closing⟩ : Exchange) ∈
        dialogue.deeds World.answer world → called.closed = true := by
  induction dialogue generalizing world engine with
  | done value => exact ⟨engine, bare, fun _ => rfl, nofun⟩
  | ask question next ih =>
      obtain ⟨middle, stays, same, closes⟩ := bare.answer question
      obtain ⟨called, reached, sameLater, closesLater⟩ := ih _ stays
      refine ⟨called, reached, fun closed => ?_, fun closing member => ?_⟩
      · obtain rfl := same closed
        exact sameLater closed
      · rcases List.mem_append.mp member with here | later
        · have asked : question = .call handle .close := by
            rw [Question.deed] at here
            split at here
            · exact (congrArg Sigma.fst (List.mem_singleton.mp here)).symm
            · cases here
          rw [sameLater (closes asked)]
          exact closes asked
        · exact closesLater closing later

/-- A closed engine refuses every call of a dialogue. -/
theorem Bare.refuses (bare : world.Bare handle engine) (closed : engine.closed = true)
    (dialogue : Dialogue α) (request : Request) (reply : Outcome request.Answer)
    (member : (⟨.call handle request, reply⟩ : Exchange) ∈ dialogue.deeds World.answer world) :
    reply = .error (.failed .closed) := by
  induction dialogue generalizing world with
  | done value => cases member
  | ask question next ih =>
      obtain ⟨middle, stays, same, _⟩ := bare.answer question
      obtain rfl := same closed
      rcases List.mem_append.mp member with here | later
      · rw [Question.deed] at here
        split at here
        · obtain ⟨rfl, replied⟩ := Sigma.mk.inj (List.mem_singleton.mp here)
          obtain rfl := eq_of_heq replied
          have answered := (bare.call request).1
          rw [MemoryEngine.answer, MemoryEngine.call_of_closed _ closed] at answered
          exact answered
        · cases here
      · exact ih _ stays later

/-- The engine behind a handle is closed for good: in every dialogue it refuses all calls, and
afterwards it does not tell its size. -/
structure Shut (world : World) (handle : Handle) : Prop where
  calls : ∀ {β : Type} (later : Dialogue β) (request : Request) (reply : Outcome request.Answer),
    (⟨.call handle request, reply⟩ : Exchange) ∈ later.deeds World.answer world →
      reply = .error (.failed .closed)
  sizes : ∀ {β : Type} (later : Dialogue β), ∃ engine,
    (later.run World.answer world).2.engine? handle = some engine ∧
      engine.size = .error .closed ∧ engine.isEmpty = .error .closed

theorem Bare.shut (bare : world.Bare handle engine) (closed : engine.closed = true) :
    world.Shut handle where
  calls := fun later request reply member => bare.refuses closed later request reply member
  sizes := by
    intro β later
    obtain ⟨called, ⟨rig, mounted, _⟩, same, _⟩ := bare.run later
    obtain rfl := same closed
    have refused : called.requireOpen = .error .closed := by
      rw [MemoryEngine.requireOpen, if_pos closed]
    have unsized : called.size = .error .closed := by
      rw [MemoryEngine.size, refused]
      rfl
    refine ⟨called, ?_, unsized, ?_⟩
    · rw [World.engine?, mounted]
      rfl
    · rw [MemoryEngine.isEmpty, unsized]
      rfl

end World

namespace Lease

variable {α : Type}

/-- **However a trial parts with its lease, its engine is closed once and then its location is
removed once**, over any engine and after any use, if the close returns; a failure is noted exactly
if the close failed on an engine that was not closed already. A memory engine is closed for good
then. -/
theorem parts_once {lease : Lease} (fresh : lease.released = false) (use : Dialogue α)
    (parting : Parting) :
    (∀ (σ : Type) (answer : (question : Question) → σ → question.Reply × σ) (before : σ),
      PartsOnce answer lease use parting before) ∧
    ∀ (world : World) (engine : MemoryEngine), world.Bare lease.handle engine →
      ((use.bind fun _ => lease.part parting).run World.answer world).2.Shut lease.handle := by
  refine ⟨fun σ answer before => partsOnce fresh use parting before, ?_⟩
  intro world engine bare
  obtain ⟨closing, last, deeds, _⟩ :=
    (partsOnce fresh use parting world : PartsOnce World.answer _ _ _ _).deeds
  obtain ⟨called, reached, _, closes⟩ := bare.run (use.bind fun _ => lease.part parting)
  refine reached.shut (closes closing ?_)
  rw [deeds]
  exact List.mem_append_right _ List.mem_cons_self

/-- The holder closes the engine and removes its location before the trial is aborted; and an engine
that cannot be closed for another reason than being closed. -/
theorem parts_once_after_closing :
    let lease : Lease := ⟨"tmp/kv", 0, ⟨.test, "t", 0⟩, false⟩
    let options : EngineOptions := { path := "tmp/kv" }
    let world := ((World.fresh "tmp" 5).openAt 0 "tmp/kv" options).2
    let use : Dialogue Unit := .ask (.call 0 .close) fun _ => .ask (.clear "tmp/kv") fun _ =>
      .done ()
    let rig : Rig := { faults := [{ kind := .close, failure := some (.engine "closed: full") }] }
    let full := world.setRig 0 rig
    lease.released = false ∧ world.Bare 0 (.start options .empty) ∧
      PartsOnce World.answer lease use (.abort "gone") world ∧
      PartsOnce World.answer lease (.done ()) .drop full ∧
      ((use.bind fun _ => lease.part (.abort "gone")).run World.answer world).2.Shut 0 ∧
      ((use.bind fun _ => lease.part (.abort "gone")).deeds World.answer world).map Sigma.fst =
        [.call 0 .close, .clear "tmp/kv", .note 0 "gone", .call 0 .close, .clear "tmp/kv"] ∧
      ((lease.part .drop).deeds World.answer full).map Sigma.fst =
        [.call 0 .close, .note 0 "failed to close engine at tmp/kv: closed: full",
          .clear "tmp/kv"] := by
  intro lease options world use rig full
  have bare : world.Bare 0 (.start options .empty) := by
    refine ⟨some 0, by decide +kernel, ?_⟩
    rintro opener ⟨⟩
    decide +kernel
  obtain ⟨any, memory⟩ := parts_once (rfl : lease.released = false) use (.abort "gone")
  obtain ⟨anyDropped, _⟩ :=
    parts_once (rfl : lease.released = false) (.done () : Dialogue Unit) .drop
  exact ⟨rfl, bare, any _ _ world, anyDropped _ _ full, memory world _ bare, by decide +kernel,
    by decide +kernel⟩

/-- After a close that panics nothing is noted and the location stays. -/
theorem location_kept_by_panicking_close :
    let lease : Lease := ⟨"tmp/kv", 0, ⟨.test, "t", 0⟩, false⟩
    let rig : Rig := { faults := [{ kind := .close, panic := some "stuck" }] }
    let world :=
      (((World.fresh "tmp" 5).setRig 0 rig).openAt 0 "tmp/kv" { path := "tmp/kv" }).2
    (lease.teardown.deeds World.answer world).map Sigma.fst = [.call 0 .close] ∧
      (lease.teardown.run World.answer world).2.disk.exists? (.ofText "tmp/kv") = true := by
  decide +kernel

end Lease

end StoreTrial
