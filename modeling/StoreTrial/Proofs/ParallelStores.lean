import Mathlib.Data.List.Perm.Basic
import StoreTrial.Proofs.ParallelSchedules
import StoreTrial.Proofs.SnapshotRoundTrip

/-! # Stores of parallel workers

Parallel workers on an open handle do not get into each other's way: a read comes after the write of
its key and finds what was written. So all units go well, whatever the schedule, and the store
gains the keys of all units (`StoreTrial.ParallelCase.measure_parallel_on_handle`).
-/

namespace StoreTrial

namespace ParallelCase

variable {σ : Type} {engine : Engine σ} {value key : Bytes} {keys : List Bytes}
  {made calls : List (σ × Request)} {outcome : Outcome Unit} {outcomes : List (Outcome Unit)}
  {workers total : Nat}

theorem UnitCalls.eq_ok (unit : UnitCalls engine value key made outcome)
    (writes : ∀ met, (met, .put key value) ∈ made → (engine (.put key value) met).1 = .ok ())
    (reads : ∀ met, (met, .get key) ∈ made → (engine (.get key) met).1 = .ok value) :
    outcome = .ok () := by
  cases unit with
  | unwritten refused => cases refused.symm.trans (writes _ List.mem_cons_self)
  | unread _ refused =>
      cases refused.symm.trans (reads _ (List.mem_cons_of_mem _ List.mem_cons_self))
  | different _ read apart =>
      cases read.symm.trans (reads _ (List.mem_cons_of_mem _ List.mem_cons_self))
      exact absurd rfl apart
  | done _ _ => rfl

theorem WorkerCalls.eq_ok (worker : WorkerCalls engine value keys made outcome)
    (writes : ∀ key ∈ keys, ∀ met, (met, .put key value) ∈ made →
      (engine (.put key value) met).1 = .ok ())
    (reads : ∀ key ∈ keys, ∀ met, (met, .get key) ∈ made →
      (engine (.get key) met).1 = .ok value) :
    outcome = .ok () := by
  induction worker with
  | finished => rfl
  | unit _ _ ih =>
      apply ih
      · intro key member met present
        exact writes key (List.mem_cons_of_mem _ member) met (List.mem_append_right _ present)
      · intro key member met present
        exact reads key (List.mem_cons_of_mem _ member) met (List.mem_append_right _ present)
  | stopped wrong => exact wrong.eq_ok (writes _ List.mem_cons_self) (reads _ List.mem_cons_self)

namespace CrewCalls

theorem eq_ok (crew : CrewCalls engine value workers total calls outcomes)
    (writes : ∀ key ∈ crewKeys workers total, ∀ met, (met, .put key value) ∈ calls →
      (engine (.put key value) met).1 = .ok ())
    (reads : ∀ key ∈ crewKeys workers total, ∀ met, (met, .get key) ∈ calls →
      (engine (.get key) met).1 = .ok value) :
    ∀ outcome ∈ outcomes, outcome = .ok () := by
  intro outcome member
  obtain ⟨worker, found⟩ := List.getElem?_of_mem member
  have bound : worker < workers := crew.length ▸ (List.getElem?_eq_some_iff.mp found).1
  apply (crew.each found).eq_ok
  · intro key own met present
    exact writes key (mem_crewKeys.mpr ⟨worker, bound, own⟩) met (List.mem_of_mem_filter present)
  · intro key own met present
    exact reads key (mem_crewKeys.mpr ⟨worker, bound, own⟩) met (List.mem_of_mem_filter present)

theorem requests_of_ok (crew : CrewCalls engine value workers total calls outcomes)
    (fine : ∀ outcome ∈ outcomes, outcome = .ok ()) {worker : Nat} (bound : worker < workers) :
    (callsAmong (shareKeys workers total worker) calls).map Prod.snd =
      (shareKeys workers total worker).flatMap (unitRequests value) := by
  obtain ⟨outcome, found, made⟩ := crew.exists_each bound
  exact made.requests_eq (fine outcome (List.mem_of_getElem? found))

/-- Workers that all end well put and get every key once. -/
theorem perm_of_ok (crew : CrewCalls engine value workers total calls outcomes)
    (fine : ∀ outcome ∈ outcomes, outcome = .ok ()) :
    (calls.map Prod.snd).Perm ((crewKeys workers total).flatMap (unitRequests value)) := by
  have split := crew.perm.map Prod.snd
  rw [List.map_flatMap] at split
  have shares := List.flatMap_congr fun worker member =>
    crew.requests_of_ok fine (List.mem_range.mp member)
  rw [crewKeys, List.flatMap_assoc, ← shares]
  exact split

theorem on_of_ok (crew : CrewCalls engine value workers total calls outcomes)
    (fine : ∀ outcome ∈ outcomes, outcome = .ok ()) (member : key ∈ crewKeys workers total) :
    Request.on key (calls.map Prod.snd) = unitRequests value key := by
  obtain ⟨worker, bound, own⟩ := mem_crewKeys.mp member
  rw [← on_callsAmong own, crew.requests_of_ok fine bound, on_flatMap (nodup_shareKeys _ _ _) own]

theorem on_of_notMem (crew : CrewCalls engine value workers total calls outcomes)
    (absent : key ∉ crewKeys workers total) : Request.on key (calls.map Prod.snd) = [] := by
  apply List.filter_eq_nil_iff.mpr
  intro request requested
  obtain ⟨call, member, rfl⟩ := List.mem_map.mp requested
  obtain ⟨own, present, keyed⟩ := crew.covered call member
  simpa [keyed] using ne_of_mem_of_not_mem present absent

/-- Workers that all end well put the value under every key, whatever the order. -/
theorem foldl_applied (crew : CrewCalls engine value workers total calls outcomes)
    (fine : ∀ outcome ∈ outcomes, outcome = .ok ()) (store : Store) :
    (calls.map Prod.snd).foldl Request.applied store =
      store.insertAll ((crewKeys workers total).map (·, value)) := by
  let entries := (crewKeys workers total).map (·, value)
  have listed : entries.map Prod.fst = crewKeys workers total := by
    rw [List.map_map]
    exact List.map_id _
  have distinct : (entries.map Prod.fst).Nodup := listed ▸ nodup_crewKeys workers total
  apply Store.ext_get?
  intro key
  apply Option.ext
  intro held
  rw [Request.get?_foldl_applied _ rfl, Store.get?_insertAll distinct, listed]
  by_cases member : key ∈ crewKeys workers total
  · rw [crew.on_of_ok fine member]
    simp [entries, unitRequests, Request.applied, Store.get?_insert, member, eq_comm]
  · rw [crew.on_of_notMem member]
    simp [entries, member]

end CrewCalls

variable {μ ε : Type} [EntropySource ε] {handle met : MemoryEngine} {save : MemoryEngine.Save μ}
  {medium left : μ} {made : List ((MemoryEngine × μ) × Request)} {request : Request}

/-- A call meets the open handle, with what the earlier calls on its key have put there. -/
theorem CrewCalls.meets (opened : handle.closed = false)
    (crew : CrewCalls (MemoryEngine.answering save) value workers total made outcomes)
    (chained : (MemoryEngine.answering save).Chained (handle, medium) made)
    (present : key ∈ crewKeys workers total) (keyed : request.key? = some key)
    (member : ((met, left), request) ∈ made) :
    met.closed = false ∧ met.syncWrites = handle.syncWrites ∧
      met.store.get? key = (((unitRequests value key).takeWhile (· ≠ request)).foldl
        Request.applied handle.store).get? key := by
  obtain ⟨before, state, closes, earlier⟩ := chained.exists_before crew.not_close
    (crew.on_prefix present) (by simp [unitRequests]) keyed member
  have found := @MemoryEngine.after_answering _ _ save opened _ closes medium
  rw [← state] at found
  dsimp only at found
  rw [found, ← earlier]
  exact ⟨opened, rfl, Request.get?_foldl_applied before rfl⟩

/-- Every get finds what the put before it has written. -/
theorem CrewCalls.get?_of_get (opened : handle.closed = false)
    (crew : CrewCalls (MemoryEngine.answering save) value workers total made outcomes)
    (chained : (MemoryEngine.answering save).Chained (handle, medium) made)
    (present : key ∈ crewKeys workers total) (member : ((met, left), .get key) ∈ made) :
    met.store.get? key = some value := by
  obtain ⟨_, _, found⟩ := crew.meets opened chained present rfl member
  simpa [unitRequests, Request.applied, Store.get?_insert] using found

theorem CrewCalls.eq_ok_of_opened (opened : handle.closed = false)
    (saved : handle.syncWrites = true → ∀ store medium, (save store medium).1 = .ok ())
    (crew : CrewCalls (MemoryEngine.answering save) value workers total made outcomes)
    (chained : (MemoryEngine.answering save).Chained (handle, medium) made) :
    ∀ outcome ∈ outcomes, outcome = .ok () := by
  apply crew.eq_ok
  · -- A put is refused only if its change cannot be saved.
    rintro key present ⟨met, left⟩ member
    obtain ⟨opened, mode, _⟩ := crew.meets opened chained present rfl member
    rw [MemoryEngine.call_answer opened rfl, MemoryEngine.perform,
      MemoryEngine.keep_eq_ok (mode ▸ saved)]
    rfl
  · -- A get is refused only if its key is absent, but it comes after the put.
    rintro key present ⟨met, left⟩ member
    have found := crew.get?_of_get opened chained present member
    obtain ⟨opened, _, _⟩ := crew.meets opened chained present rfl member
    rw [MemoryEngine.call_answer opened rfl, MemoryEngine.perform, found]
    rfl

/-- **Parallel workers on an open handle do all their work**, whatever the schedule. Every unit has
a key of its own, which is put once and got once, and every get finds the value. In the end the
store has gained these keys and is otherwise as it was. -/
theorem measure_parallel_on_handle (opened : handle.closed = false)
    (saved : handle.syncWrites = true → ∀ store medium, (save store medium).1 = .ok ())
    (case : ParallelCase) (workers total : Nat) (generator : Generator ε) (medium : μ)
    (clock : Nat → Nat) (schedule : List Nat) :
    let value := (Generator.value case.valueSize generator).value
    let keys := crewKeys (max workers 1) total
    let script := (case.measure schedule workers total).script generator
    let calls := script.calls (MemoryEngine.answering save) clock ((handle, medium), 0)
    let ended := script.run (Probe.answer (MemoryEngine.answering save) clock) ((handle, medium), 0)
    (keys.Nodup ∧ keys.length = total) ∧
    ended.1.1 = .ok ⟨total, clock 1 - clock 0, wrapped (total * case.valueSize)⟩ ∧
    (calls.map Prod.snd).Perm (keys.map (.put · value) ++ keys.map .get) ∧
    (∀ met left key, ((met, left), .get key) ∈ calls → met.store.get? key = some value) ∧
    ended.2.1.1 = { handle with store := handle.store.insertAll (keys.map (·, value)) } := by
  intro value keys script calls ended
  obtain ⟨made, outcomes, later, left, ends, crew⟩ :=
    @ends_measure _ (MemoryEngine.answering save) clock _ _ case schedule workers total generator
      (handle, medium)
  have all : calls = made := ends.calls
  have chained : (MemoryEngine.answering save).Chained (handle, medium) calls :=
    Script.chained_calls script _
  rw [← all] at crew
  have fine := crew.eq_ok_of_opened opened saved chained
  refine ⟨⟨nodup_crewKeys _ _, length_crewKeys (by omega) total⟩, ?_, ?_, ?_, ?_⟩
  · have result : ended.1.1 = case.verdict total (clock 1 - clock 0) outcomes :=
      congrArg (fun ended => ended.1.1) ends.run
    rw [result, verdict_eq_ok_iff]
    exact fine
  · have pairs := List.map_append_flatMap_perm keys (Request.put · value)
      fun key => [Request.get key]
    rw [← List.map_eq_flatMap] at pairs
    exact (crew.perm_of_ok fine).trans pairs.symm
  · intro met left key member
    obtain ⟨own, present, keyed⟩ := crew.covered _ member
    cases keyed
    exact crew.get?_of_get opened chained present member
  · have state : ended.2.1 = (MemoryEngine.answering save).after (handle, medium)
        (calls.map Prod.snd) := Script.state_run script _
    rw [state, MemoryEngine.after_answering opened crew.not_close, crew.foldl_applied fine]

/-- Three units of two workers, one of whose keys was in the store before. -/
theorem measure_parallel_on_handle_three_units :
    let handle : MemoryEngine := ⟨"db", true, Store.empty.insert (Key.unit 0 0) [1], false⟩
    let save : MemoryEngine.Save Unit := fun _ medium => (.ok (), medium)
    let case : ParallelCase := ⟨1⟩
    let generator : Generator Source :=
      { source := .planned #[.pattern #[0]] 0, seed := defaultSeed }
    let ended := ((case.measure [1, 0, 1, 0] 2 3).script generator).run
      (Probe.answer (MemoryEngine.answering save) id) ((handle, ()), 0)
    (handle.closed = false ∧
      (handle.syncWrites = true → ∀ store medium, (save store medium).1 = .ok ())) ∧
    ended.1.1 = .ok ⟨3, 1, 3⟩ ∧ ended.2.1.1.store.get? (Key.unit 0 0) = some [97] ∧
      ended.2.1.1.store.get? (Key.unit 0 1) = some [97] ∧
      ended.2.1.1.store.get? (Key.unit 1 0) = some [97] := by
  intro handle save case generator ended
  have opened : handle.closed = false := rfl
  have saved : handle.syncWrites = true → ∀ store medium, (save store medium).1 = .ok () := by
    intro _ store medium
    rfl
  obtain ⟨_, fine, _, _, final⟩ :=
    measure_parallel_on_handle opened saved case 2 3 generator () id [1, 0, 1, 0]
  refine ⟨⟨opened, saved⟩, fine, ?_, ?_, ?_⟩
  all_goals
    rw [final]
    decide +kernel

end ParallelCase

end StoreTrial
