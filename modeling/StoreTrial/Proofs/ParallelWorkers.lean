import StoreTrial.Proofs.InterleavedProbes
import StoreTrial.Proofs.WorkerUnits

/-! # Calls of parallel workers

Whatever the schedule, each worker of a parallel case makes the calls of its units one after
another, up to the first unit that goes wrong (`StoreTrial.ParallelCase.crewCalls_interleave`). How
the workers have ended decides what the case gives (`StoreTrial.ParallelCase.ends_measure`).
-/

namespace StoreTrial.ParallelCase

open Script

variable {σ : Type} {engine : Engine σ} {clock : Nat → Nat} {value key : Bytes} {keys : List Bytes}
  {questions : List ((σ × Nat) × Probe)} {made : List (σ × Request)} {outcome : Outcome Unit}

/-- The calls of a unit, which are a put and, unless that is refused, a get, and how it ends. -/
inductive UnitCalls (engine : Engine σ) (value key : Bytes) :
    List (σ × Request) → Outcome Unit → Prop where
  | unwritten {first : σ} {stop : Stop}
      (refused : (engine (.put key value) first).1 = .error stop) :
      UnitCalls engine value key [(first, .put key value)] (.error stop)
  | unread {first second : σ} {stop : Stop}
      (written : (engine (.put key value) first).1 = .ok ())
      (refused : (engine (.get key) second).1 = .error stop) :
      UnitCalls engine value key [(first, .put key value), (second, .get key)] (.error stop)
  | different {first second : σ} {found : Bytes}
      (written : (engine (.put key value) first).1 = .ok ())
      (read : (engine (.get key) second).1 = .ok found) (apart : found ≠ value) :
      UnitCalls engine value key [(first, .put key value), (second, .get key)]
        (.error (.failed (.invalidOperation (.differentValue (Bytes.repaired key)))))
  | done {first second : σ} (written : (engine (.put key value) first).1 = .ok ())
      (read : (engine (.get key) second).1 = .ok value) :
      UnitCalls engine value key [(first, .put key value), (second, .get key)] (.ok ())

/-- The calls of a worker for the units of some keys: it makes the units one after another and
stops with the first that goes wrong. -/
inductive WorkerCalls (engine : Engine σ) (value : Bytes) :
    List Bytes → List (σ × Request) → Outcome Unit → Prop where
  | finished : WorkerCalls engine value [] [] (.ok ())
  | unit {key : Bytes} {keys : List Bytes} {made more : List (σ × Request)}
      {outcome : Outcome Unit} (done : UnitCalls engine value key made (.ok ()))
      (rest : WorkerCalls engine value keys more outcome) :
      WorkerCalls engine value (key :: keys) (made ++ more) outcome
  | stopped {key : Bytes} {keys : List Bytes} {made : List (σ × Request)} {stop : Stop}
      (wrong : UnitCalls engine value key made (.error stop)) :
      WorkerCalls engine value (key :: keys) made (.error stop)

theorem unitCalls_of_played
    (played : Played (Probe.answer engine clock) (workUnit value key).script questions outcome) :
    ∃ made, AreCalls questions made ∧ UnitCalls engine value key made outcome := by
  rcases Attempt.of_played_bind played with
    ⟨first, later, ⟨⟩, rfl, put, rest⟩ | ⟨stop, put, rfl⟩
  · obtain ⟨before, one, written⟩ := Attempt.of_played_call put
    rcases Attempt.of_played_bind rest with
      ⟨second, last, found, rfl, get, ending⟩ | ⟨stop, get, rfl⟩
    · obtain ⟨middle, two, read⟩ := Attempt.of_played_call get
      by_cases same : found = value
      · subst same
        rw [if_pos rfl] at ending
        cases ending
        rw [List.append_nil]
        exact ⟨_, one.append two, .done written.symm read.symm⟩
      · rw [if_neg same] at ending
        cases ending
        rw [List.append_nil]
        exact ⟨_, one.append two, .different written.symm read.symm same⟩
    · obtain ⟨middle, two, refused⟩ := Attempt.of_played_call get
      exact ⟨_, one.append two, .unread written.symm refused.symm⟩
  · obtain ⟨before, one, refused⟩ := Attempt.of_played_call put
    exact ⟨_, one, .unwritten refused.symm⟩

theorem workerCalls_of_played
    (played : Played (Probe.answer engine clock)
      (Attempt.script (keys.forM (workUnit value))) questions outcome) :
    ∃ made, AreCalls questions made ∧ WorkerCalls engine value keys made outcome := by
  induction keys generalizing questions with
  | nil =>
      cases played with
      | done _ => exact ⟨[], rfl, .finished⟩
  | cons key keys ih =>
      rcases Attempt.of_played_bind played with
        ⟨first, later, ⟨⟩, rfl, unit, rest⟩ | ⟨stop, unit, rfl⟩
      · obtain ⟨made, one, done⟩ := unitCalls_of_played unit
        obtain ⟨more, others, calls⟩ := ih rest
        exact ⟨_, one.append others, .unit done calls⟩
      · obtain ⟨made, one, wrong⟩ := unitCalls_of_played unit
        exact ⟨made, one, .stopped wrong⟩

theorem worker_eq_forM (value : Bytes) (index units : Nat) :
    worker value index units = (unitKeys index units).forM (workUnit value) := by
  unfold worker unitKeys
  rw [Attempt.forEachFrom_eq_forM, List.range_eq_range']
  exact (List.forM_map ..).symm

theorem UnitCalls.key?_eq (calls : UnitCalls engine value key made outcome) :
    ∀ call ∈ made, call.2.key? = some key := by
  intro call member
  cases calls with
  | unwritten _ =>
      rw [List.mem_singleton.mp member]
      rfl
  | unread _ _ | different _ _ _ | done _ _ => rcases List.mem_pair.mp member with rfl | rfl <;> rfl

theorem WorkerCalls.exists_key (calls : WorkerCalls engine value keys made outcome) :
    ∀ call ∈ made, ∃ key ∈ keys, call.2.key? = some key := by
  induction calls with
  | finished => exact fun call member => absurd member List.not_mem_nil
  | unit done _ ih =>
      intro call member
      rcases List.mem_append.mp member with first | later
      · exact ⟨_, List.mem_cons_self, done.key?_eq call first⟩
      · obtain ⟨key, present, keyed⟩ := ih call later
        exact ⟨key, List.mem_cons_of_mem _ present, keyed⟩
  | stopped wrong => exact fun call member => ⟨_, List.mem_cons_self, wrong.key?_eq call member⟩

/-- The calls of all workers, in the order that they are made in: those on the keys of a worker
are the calls of the worker, and there are no others. -/
structure CrewCalls (engine : Engine σ) (value : Bytes) (workers total : Nat)
    (calls : List (σ × Request)) (outcomes : List (Outcome Unit)) : Prop where
  length : outcomes.length = workers
  each : ∀ {worker : Nat} {outcome : Outcome Unit}, outcomes[worker]? = some outcome →
    WorkerCalls engine value (shareKeys workers total worker)
      (callsAmong (shareKeys workers total worker) calls) outcome
  covered : ∀ call ∈ calls, ∃ key ∈ crewKeys workers total, call.2.key? = some key

section Turns

variable {workers total : Nat} {turns : List (Turn (σ × Nat) Probe)}
  {outcomes : List (Outcome Unit)}

theorem exists_workerCalls
    (shared : Shared (Probe.answer engine clock) (crew value workers total) turns outcomes)
    {index : Nat} (bound : index < workers) :
    ∃ outcome made, outcomes[index]? = some outcome ∧ AreCalls (questionsOf turns index) made ∧
      WorkerCalls engine value (shareKeys workers total index) made outcome := by
  have present : (crew value workers total)[index]? =
      some (worker value index (share index workers total)).script := by
    unfold crew
    rw [List.getElem?_map, List.getElem?_range bound, Option.map_some]
  obtain ⟨outcome, given, played⟩ := shared.each present
  rw [worker_eq_forM] at played
  obtain ⟨made, own, calls⟩ := workerCalls_of_played played
  exact ⟨outcome, made, given, own, calls⟩

/-- A worker only calls its own keys. -/
theorem exists_call_of_turn
    (shared : Shared (Probe.answer engine clock) (crew value workers total) turns outcomes) :
    ∀ turn ∈ turns, turn.1 < workers ∧ ∃ request key, turn.2.2 = .call request ∧
      request.key? = some key ∧ key ∈ shareKeys workers total turn.1 := by
  intro turn member
  have bound : turn.1 < workers := by
    simpa only [crew, List.length_map, List.length_range] using shared.indices turn member
  obtain ⟨outcome, made, _, own, calls⟩ := exists_workerCalls shared bound
  have asked : turn.2 ∈ questionsOf turns turn.1 :=
    List.mem_map_of_mem (List.mem_filter.mpr ⟨member, decide_eq_true rfl⟩)
  obtain ⟨call, present, same⟩ := own.exists_call _ asked
  obtain ⟨key, own, keyed⟩ := calls.exists_key call present
  exact ⟨bound, call.2, key, same, keyed, own⟩

theorem crewCalls_of_shared
    (shared : Shared (Probe.answer engine clock) (crew value workers total) turns outcomes)
    (length : outcomes.length = workers) :
    CrewCalls engine value workers total (Probe.callsOf (turns.map Prod.snd)) outcomes where
  length := length
  each := by
    intro index outcome found
    have bound : index < outcomes.length := (List.getElem?_eq_some_iff.mp found).1
    obtain ⟨given, made, same, own, calls⟩ := exists_workerCalls shared (length ▸ bound)
    cases found.symm.trans same
    -- The key of a call tells whose call it is, as no two workers share a key.
    have mine : callsAmong (shareKeys workers total index) (Probe.callsOf (turns.map Prod.snd)) =
        made := by
      rw [callsAmong_turns, own.callsOf_eq]
      intro turn member
      obtain ⟨_, request, key, call, keyed, present⟩ := exists_call_of_turn shared turn member
      refine ⟨request, key, call, keyed, fun also => worker_unique present also, ?_⟩
      rintro rfl
      exact present
    rwa [mine]
  covered := by
    intro call member
    obtain ⟨question, asked, called⟩ := List.mem_flatMap.mp member
    obtain ⟨turn, present, rfl⟩ := List.mem_map.mp asked
    obtain ⟨bound, request, key, probe, keyed, own⟩ := exists_call_of_turn shared turn present
    rw [probe] at called
    rw [List.mem_singleton.mp called]
    exact ⟨key, mem_crewKeys.mpr ⟨turn.1, bound, own⟩, keyed⟩

end Turns

/-- **Interleaved workers make their own calls**, and do not read the clock. -/
theorem crewCalls_interleave (schedule : List Nat) (value : Bytes) (workers total : Nat)
    (state : σ × Nat) :
    let script := interleave schedule (crew value workers total)
    let ended := script.run (Probe.answer engine clock) state
    CrewCalls engine value workers total (script.calls engine clock state) ended.1 ∧
      ended.2.2 = state.2 := by
  intro script ended
  obtain ⟨turns, asks, shared⟩ := @exists_turns_interleave _ _ _ _ (Probe.answer engine clock)
    schedule (crew value workers total) state
  have length : ended.1.length = workers := by
    rw [length_interleave, crew, List.length_map, List.length_range]
  constructor
  · rw [calls_eq_callsOf, asks]
    exact crewCalls_of_shared shared length
  · apply readings_run
    intro question asked instant
    rw [asks] at asked
    obtain ⟨turn, present, rfl⟩ := List.mem_map.mp asked
    obtain ⟨_, request, _, probe, _⟩ := exists_call_of_turn shared turn present
    cases probe.symm.trans instant

variable {ε : Type}

/-- What a case gives when its workers have ended. -/
def verdict (case : ParallelCase) (total elapsed : Nat) (outcomes : List (Outcome Unit)) :
    Outcome Measurement :=
  match outcomes.findSome? failureOf with
  | some failure => .error (.failed failure)
  | none => .ok ⟨total, elapsed, wrapped (total * case.valueSize)⟩

section Verdict

variable {case : ParallelCase} {total elapsed : Nat} {outcomes : List (Outcome Unit)}

theorem failureOf_eq_none_iff : failureOf outcome = none ↔ outcome = .ok () := by
  rcases outcome with (failure | message) | ⟨⟩ <;> simp [failureOf]

theorem verdict_eq_ok_iff :
    case.verdict total elapsed outcomes = .ok ⟨total, elapsed, wrapped (total * case.valueSize)⟩ ↔
      ∀ outcome ∈ outcomes, outcome = .ok () := by
  simp only [← failureOf_eq_none_iff, ← List.findSome?_eq_none_iff]
  unfold verdict
  cases outcomes.findSome? failureOf with
  | some failure => simp
  | none => simp

theorem verdict_of_first {earlier later : List (Outcome Unit)} {failure : Failure}
    (fine : ∀ early ∈ earlier, early = .ok ()) (failed : failureOf outcome = some failure) :
    case.verdict total elapsed (earlier ++ outcome :: later) = .error (.failed failure) := by
  have first : (earlier ++ outcome :: later).findSome? failureOf = some failure := by
    apply List.findSome?_eq_some_iff.mpr
    exact ⟨earlier, outcome, later, rfl, failed, fun early member =>
      failureOf_eq_none_iff.mpr (fine early member)⟩
  rw [verdict, first]

end Verdict

theorem ends_verdict (case : ParallelCase) (workers total elapsed : Nat)
    (outcomes : List (Outcome Unit)) (generator : Generator ε) (state : σ × Nat) :
    Probing.Ends engine clock
      (match outcomes.findSome? failureOf with
        | some failure => do
            Attempt.log (.workersAborted workers failure)
            Attempt.fail failure
        | none => return ⟨total, elapsed, wrapped (total * case.valueSize)⟩ : Probing ε Measurement)
      generator state [] (case.verdict total elapsed outcomes) generator state := by
  unfold verdict
  cases outcomes.findSome? failureOf with
  | some failure =>
      exact (Probing.ends_ofAttempt (Attempt.ends_log _ _) _).bind
        (Probing.ends_ofAttempt (Attempt.ends_throw _ _) _)
  | none => exact Probing.ends_pure _ _ _

variable [EntropySource ε]

/-- **A parallel case makes the calls of its workers** and then judges how they have ended. -/
theorem ends_measure (case : ParallelCase) (schedule : List Nat) (workers total : Nat)
    (generator : Generator ε) (start : σ) :
    let value := (Generator.value case.valueSize generator).value
    ∃ calls outcomes later left,
      Probing.Ends engine clock (case.measure schedule workers total) generator (start, 0) calls
        (case.verdict total (clock 1 - clock 0) outcomes) later left ∧
      CrewCalls engine value (max workers 1) total calls outcomes := by
  intro value
  let drawn := (Generator.value case.valueSize generator).generator
  let script := interleave schedule (crew value (max workers 1) total)
  obtain ⟨calls, readings⟩ :=
    @crewCalls_interleave _ engine clock schedule value (max workers 1) total (start, 1)
  cases ended : script.run (Probe.answer engine clock) (start, 1) with
  | mk outcomes state =>
      obtain ⟨left, stopped⟩ := state
      rw [ended] at calls readings
      cases readings
      have crewed := Attempt.ends_lift (Script.Ends.mk rfl ended)
      have instant (state : σ) (readings : Nat) : Probing.Ends engine clock
          (liftM Attempt.instant) drawn (state, readings) [] (.ok (clock readings)) drawn
          (state, readings + 1) := Probing.ends_ofAttempt (Attempt.ends_instant _ _) _
      refine ⟨_, outcomes, drawn, (left, 2), ?_, calls⟩
      rw [← List.append_nil (script.calls engine clock (start, 1))]
      exact (Probing.ends_draw _ _ _).bind ((instant start 0).bind
        ((Probing.ends_ofAttempt crewed drawn).bind
          ((instant left 1).bind (ends_verdict case _ _ _ _ _ _))))

end StoreTrial.ParallelCase
