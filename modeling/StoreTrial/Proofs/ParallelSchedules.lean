import StoreTrial.Entropy.Source
import StoreTrial.Proofs.ParallelWorkers

/-! # Schedules of parallel workers

Each key is written and then read by one worker, whatever the schedule. So on an engine that keeps
keys apart the workers do not meet: what they call and how they end is the same for all schedules
(`StoreTrial.ParallelCase.CrewCalls.unique`), and so is what the case gives
(`StoreTrial.ParallelCase.measure_parallel_on_keyed`).
-/

namespace StoreTrial

namespace ParallelCase

variable {σ : Type} {engine : Engine σ} {value key : Bytes} {keys : List Bytes}
  {made more calls others : List (σ × Request)} {outcome ending : Outcome Unit}

/-- The calls of a unit, if none is refused. -/
def unitRequests (value key : Bytes) : List Request := [.put key value, .get key]

theorem UnitCalls.requests_prefix (calls : UnitCalls engine value key made outcome) :
    made.map Prod.snd <+: unitRequests value key := by
  cases calls with
  | unwritten _ => exact ⟨[.get key], rfl⟩
  | unread _ _ | different _ _ _ | done _ _ => exact List.prefix_rfl

theorem UnitCalls.requests_eq (calls : UnitCalls engine value key made (.ok ())) :
    made.map Prod.snd = unitRequests value key := by
  cases calls with
  | done _ _ => rfl

theorem WorkerCalls.requests_prefix (calls : WorkerCalls engine value keys made outcome) :
    made.map Prod.snd <+: keys.flatMap (unitRequests value) := by
  induction calls with
  | finished => exact List.prefix_rfl
  | unit done _ ih =>
      rw [List.map_append, List.flatMap_cons, done.requests_eq]
      exact (List.prefix_append_right_inj _).mpr ih
  | stopped wrong => exact wrong.requests_prefix.trans (List.prefix_append _ _)

theorem WorkerCalls.requests_eq (calls : WorkerCalls engine value keys made outcome)
    (fine : outcome = .ok ()) : made.map Prod.snd = keys.flatMap (unitRequests value) := by
  induction calls with
  | finished => rfl
  | unit done _ ih => rw [List.map_append, List.flatMap_cons, done.requests_eq, ih fine]
  | stopped _ => cases fine

/-- A unit that is answered alike calls the same and ends the same way. -/
theorem UnitCalls.unique (first : UnitCalls engine value key made outcome)
    (second : UnitCalls engine value key more ending)
    (alike : ∀ request left right, (left, request) ∈ made → (right, request) ∈ more →
      (engine request left).1 = (engine request right).1) :
    made.map Prod.snd = more.map Prod.snd ∧ outcome = ending := by
  have put := alike (.put key value)
  have get := alike (.get key)
  cases first <;> cases second <;> simp_all

theorem WorkerCalls.unique (first : WorkerCalls engine value keys made outcome)
    (second : WorkerCalls engine value keys more ending)
    (alike : ∀ request left right, (left, request) ∈ made → (right, request) ∈ more →
      (engine request left).1 = (engine request right).1) :
    made.map Prod.snd = more.map Prod.snd ∧ outcome = ending := by
  induction first generalizing more with
  | finished =>
      cases second with
      | finished => exact ⟨rfl, rfl⟩
  | unit done rest ih =>
      cases second with
      | unit done' rest' =>
          obtain ⟨same, _⟩ := done.unique done' fun request left right member again =>
            alike request left right (List.mem_append_left _ member) (List.mem_append_left _ again)
          obtain ⟨later, last⟩ := ih rest' fun request left right member again =>
            alike request left right (List.mem_append_right _ member)
              (List.mem_append_right _ again)
          exact ⟨by rw [List.map_append, List.map_append, same, later], last⟩
      | stopped wrong =>
          obtain ⟨_, other⟩ := done.unique wrong fun request left right member =>
            alike request left right (List.mem_append_left _ member)
          cases other
  | stopped wrong =>
      cases second with
      | unit done rest =>
          obtain ⟨_, other⟩ := wrong.unique done fun request left right member again =>
            alike request left right member (List.mem_append_left _ again)
          cases other
      | stopped wrong' => exact wrong.unique wrong' alike

theorem on_unitRequests (key own : Bytes) :
    Request.on key (unitRequests value own) = if own = key then unitRequests value own else [] := by
  by_cases same : own = key <;> simp [unitRequests, Request.on, Request.key?, same]

theorem on_flatMap_of_notMem (absent : key ∉ keys) :
    Request.on key (keys.flatMap (unitRequests value)) = [] := by
  apply List.filter_eq_nil_iff.mpr
  intro request member
  obtain ⟨own, present, requested⟩ := List.mem_flatMap.mp member
  have other : own ≠ key := ne_of_mem_of_not_mem present absent
  rcases List.mem_pair.mp requested with rfl | rfl <;> simpa [Request.key?] using other

theorem on_flatMap (different : keys.Nodup) (member : key ∈ keys) :
    Request.on key (keys.flatMap (unitRequests value)) = unitRequests value key := by
  induction keys with
  | nil => exact absurd member List.not_mem_nil
  | cons first rest ih =>
      obtain ⟨fresh, later⟩ := List.nodup_cons.mp different
      rw [List.flatMap_cons, Request.on_append, on_unitRequests]
      by_cases same : first = key
      · subst same
        rw [if_pos rfl, on_flatMap_of_notMem fresh, List.append_nil]
      · have present : key ∈ rest := (List.mem_cons.mp member).resolve_left (Ne.symm same)
        rw [if_neg same, List.nil_append, ih later present]

variable {workers total : Nat} {outcomes endings : List (Outcome Unit)}

namespace CrewCalls

theorem not_close (crew : CrewCalls engine value workers total calls outcomes) :
    .close ∉ calls.map Prod.snd := by
  intro member
  obtain ⟨call, present, close⟩ := List.mem_map.mp member
  obtain ⟨key, _, keyed⟩ := crew.covered call present
  rw [close] at keyed
  cases keyed

theorem exists_each (crew : CrewCalls engine value workers total calls outcomes) {worker : Nat}
    (bound : worker < workers) : ∃ outcome, outcomes[worker]? = some outcome ∧
      WorkerCalls engine value (shareKeys workers total worker)
        (callsAmong (shareKeys workers total worker) calls) outcome := by
  rw [← crew.length] at bound
  have found := List.getElem?_eq_getElem bound
  exact ⟨_, found, crew.each found⟩

theorem on_prefix (crew : CrewCalls engine value workers total calls outcomes)
    (member : key ∈ crewKeys workers total) :
    Request.on key (calls.map Prod.snd) <+: unitRequests value key := by
  obtain ⟨worker, bound, own⟩ := mem_crewKeys.mp member
  obtain ⟨outcome, _, made⟩ := crew.exists_each bound
  rw [← on_callsAmong own, ← on_flatMap (nodup_shareKeys _ _ _) own]
  exact made.requests_prefix.filter _

theorem perm (crew : CrewCalls engine value workers total calls outcomes) :
    calls.Perm ((List.range workers).flatMap fun worker =>
      callsAmong (shareKeys workers total worker) calls) := by
  have all : callsAmong (crewKeys workers total) calls = calls := by
    apply List.filter_eq_self.mpr
    exact fun call member => Request.isAmong_iff.mpr (crew.covered call member)
  have split : (callsAmong (crewKeys workers total) calls).Perm _ :=
    callsAmong_flatMap worker_unique workers calls
  rwa [all] at split

/-- **The calls and the outcomes of the workers do not depend on the schedule**, if the engine
keeps keys apart. -/
theorem unique {start : σ} (keyed : engine.Keyed start)
    (crew : CrewCalls engine value workers total calls outcomes)
    (other : CrewCalls engine value workers total others endings)
    (chained : engine.Chained start calls) (chained' : engine.Chained start others) :
    (calls.map Prod.snd).Perm (others.map Prod.snd) ∧ outcomes = endings := by
  -- Both runs make the calls on a key in one order, so they answer each of them alike.
  have alike (request : Request) (left right : σ) (member : (left, request) ∈ calls)
      (again : (right, request) ∈ others) : (engine request left).1 = (engine request right).1 := by
    obtain ⟨key, present, own⟩ := crew.covered _ member
    exact keyed.answer_congr chained chained' crew.not_close other.not_close
      (crew.on_prefix present) (other.on_prefix present) (by simp [unitRequests]) own member again
  have same (worker : Nat) (bound : worker < workers) :
      (callsAmong (shareKeys workers total worker) calls).map Prod.snd =
        (callsAmong (shareKeys workers total worker) others).map Prod.snd ∧
      outcomes[worker]? = endings[worker]? := by
    obtain ⟨outcome, found, made⟩ := crew.exists_each bound
    obtain ⟨ending, given, more⟩ := other.exists_each bound
    obtain ⟨requests, rfl⟩ := made.unique more fun request left right member again =>
      alike request left right (List.mem_of_mem_filter member) (List.mem_of_mem_filter again)
    exact ⟨requests, found.trans given.symm⟩
  constructor
  · -- The runs may mix the workers in different ways, but not the calls of one worker.
    have shares := List.flatMap_congr fun worker member =>
      (same worker (List.mem_range.mp member)).1
    have left := crew.perm.map Prod.snd
    have right := other.perm.map Prod.snd
    rw [List.map_flatMap] at left right
    exact left.trans (shares ▸ right.symm)
  · apply List.ext_getElem?
    intro worker
    by_cases bound : worker < workers
    · exact (same worker bound).2
    · rw [List.getElem?_eq_none (by rw [crew.length]; omega),
        List.getElem?_eq_none (by rw [other.length]; omega)]

end CrewCalls

variable {ε : Type} [EntropySource ε]

/-- **Parallel workers on an engine that keeps keys apart.** Each worker stops at its first unit
that goes wrong and the others make all calls of their shares. The case gives a measurement if no
worker has failed, and otherwise the failure of the first worker that has. The calls, but for their
order, and the result do not depend on the schedule. -/
theorem measure_parallel_on_keyed {start : σ} (keyed : engine.Keyed start) (case : ParallelCase)
    (workers total : Nat) (generator : Generator ε) (clock : Nat → Nat) (schedule : List Nat) :
    let value := (Generator.value case.valueSize generator).value
    let calls (schedule : List Nat) :=
      ((case.measure schedule workers total).script generator).calls engine clock (start, 0)
    let result (schedule : List Nat) := (((case.measure schedule workers total).script
      generator).run (Probe.answer engine clock) (start, 0)).1.1
    (∃ outcomes, CrewCalls engine value (max workers 1) total (calls schedule) outcomes ∧
      (∀ worker, outcomes[worker]? = some (.ok ()) →
        (callsAmong (shareKeys (max workers 1) total worker) (calls schedule)).map Prod.snd =
          (shareKeys (max workers 1) total worker).flatMap (unitRequests value)) ∧
      (result schedule = .ok ⟨total, clock 1 - clock 0, wrapped (total * case.valueSize)⟩ ↔
        ∀ outcome ∈ outcomes, outcome = .ok ()) ∧
      ∀ earlier outcome later failure, outcomes = earlier ++ outcome :: later →
        (∀ early ∈ earlier, early = .ok ()) → failureOf outcome = some failure →
        result schedule = .error (.failed failure)) ∧
    ∀ other, ((calls schedule).map Prod.snd).Perm ((calls other).map Prod.snd) ∧
      result schedule = result other := by
  intro value calls result
  have measured (schedule : List Nat) : ∃ outcomes,
      CrewCalls engine value (max workers 1) total (calls schedule) outcomes ∧
      result schedule = case.verdict total (clock 1 - clock 0) outcomes := by
    obtain ⟨made, outcomes, later, left, ends, crew⟩ :=
      @ends_measure _ engine clock _ _ case schedule workers total generator start
    have all : calls schedule = made := ends.calls
    refine ⟨outcomes, all ▸ crew, ?_⟩
    exact congrArg (fun ended => ended.1.1) ends.run
  obtain ⟨outcomes, crew, judged⟩ := measured schedule
  refine ⟨⟨outcomes, crew, ?_, ?_, ?_⟩, ?_⟩
  · exact fun worker fine => (crew.each fine).requests_eq rfl
  · rw [judged, verdict_eq_ok_iff]
  · rintro earlier outcome later failure rfl fine failed
    rw [judged, verdict_of_first fine failed]
  · intro other
    obtain ⟨endings, again, judged'⟩ := measured other
    obtain ⟨requests, rfl⟩ := crew.unique keyed again (Script.chained_calls _ _)
      (Script.chained_calls _ _)
    exact ⟨requests, judged.trans judged'.symm⟩

/-- The second worker panics at once, the first one reads a different value in its second unit. For
every schedule this is what the case fails with. -/
theorem measure_parallel_on_keyed_two_failures :
    let engine : Engine Unit := fun request state =>
      match request with
      | .put key _ => (if key = Key.unit 1 0 then .error (.panicked "full") else .ok (), state)
      | .get key => (.ok (if key = Key.unit 0 1 then [] else [97]), state)
      | .contains _ => (.ok true, state)
      | .delete _ | .close => (.ok (), state)
    let case : ParallelCase := ⟨1⟩
    let generator : Generator Source :=
      { source := .planned #[.pattern #[0]] 0, seed := defaultSeed }
    engine.Keyed () ∧ ∀ schedule,
      let script := (case.measure schedule 2 5).script generator
      (script.run (Probe.answer engine id) ((), 0)).1.1 =
          .error (.failed (.invalidOperation (.differentValue (Bytes.repaired (Key.unit 0 1))))) ∧
        ((script.calls engine id ((), 0)).map Prod.snd).Perm
          [.put (Key.unit 1 0) [97], .put (Key.unit 0 0) [97], .get (Key.unit 0 0),
            .put (Key.unit 0 1) [97], .get (Key.unit 0 1)] := by
  intro engine case generator
  have keyed : engine.Keyed () := by
    intro request key _ earlier other _ _ _
    rfl
  refine ⟨keyed, ?_⟩
  intro schedule script
  obtain ⟨_, same⟩ := measure_parallel_on_keyed keyed case 2 5 generator id schedule
  obtain ⟨requests, result⟩ := same [1]
  refine ⟨result.trans ?_, requests.trans (.of_eq ?_)⟩
  · rfl
  · decide +kernel

end ParallelCase

end StoreTrial
