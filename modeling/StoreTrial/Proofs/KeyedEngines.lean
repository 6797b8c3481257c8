import StoreTrial.Proofs.EngineProbing

/-! # Engines that keep keys apart

An engine keeps keys apart if a call on a key is answered as the earlier calls on that key have
it, whatever was called on other keys in between (`StoreTrial.Engine.Keyed`). An open handle of
the memory engine does, as long as its changes can be saved
(`StoreTrial.MemoryEngine.keyed_answering`).
-/

namespace StoreTrial

variable {σ α : Type} {engine : Engine σ} {clock : Nat → Nat}

/-- The state that some calls lead to. -/
def Engine.after (engine : Engine σ) (start : σ) (requests : List Request) : σ :=
  requests.foldl (fun state request => (engine request state).2) start

/-- Those of some calls that go to a key. -/
def Request.on (key : Bytes) (requests : List Request) : List Request :=
  requests.filter fun request => request.key? = some key

/-- What a call on a key is answered depends only on the earlier calls on that key, as long as
only keys are called. -/
def Engine.Keyed (engine : Engine σ) (start : σ) : Prop :=
  ∀ ⦃request : Request⦄ ⦃key : Bytes⦄, request.key? = some key →
    ∀ ⦃earlier other : List Request⦄, .close ∉ earlier → .close ∉ other →
      Request.on key earlier = Request.on key other →
      (engine request (engine.after start earlier)).1 =
        (engine request (engine.after start other)).1

/-- Each of some calls meets the state that the calls before it have led to. -/
def Engine.Chained (engine : Engine σ) (start : σ) (calls : List (σ × Request)) : Prop :=
  ∀ ⦃before rest : List (σ × Request)⦄ ⦃met : σ⦄ ⦃request : Request⦄,
    calls = before ++ (met, request) :: rest → met = engine.after start (before.map Prod.snd)

namespace Script

theorem chained_calls (script : Script Probe.Reply α) (state : σ × Nat) :
    engine.Chained state.1 (script.calls engine clock state) := by
  intro before rest met request split
  induction script generalizing state before with
  | done value => simp [calls] at split
  | ask probe next ih =>
      obtain ⟨start, readings⟩ := state
      cases probe with
      | instant => exact ih (clock readings) (start, readings + 1) split
      | log event => exact ih () (start, readings) split
      | call asked =>
          cases before with
          | nil =>
              cases split
              rfl
          | cons first before =>
              obtain ⟨rfl, later⟩ := List.cons.inj split
              exact ih (engine asked start).1 ((engine asked start).2, readings) later

/-- The calls of a script lead to the state that it leaves. -/
theorem state_run (script : Script Probe.Reply α) (state : σ × Nat) :
    (script.run (Probe.answer engine clock) state).2.1 =
      engine.after state.1 ((script.calls engine clock state).map Prod.snd) := by
  induction script generalizing state with
  | done value => rfl
  | ask probe next ih =>
      cases probe with
      | call _ | instant | log _ => exact ih _ _

end Script

namespace Request

variable {key : Bytes} {store other : Store}

theorem on_cons (key : Bytes) (request : Request) (requests : List Request) :
    on key (request :: requests) =
      if request.key? = some key then request :: on key requests else on key requests := by
  simp only [on, List.filter_cons, decide_eq_true_eq]

theorem get?_applied_congr (request : Request) (same : store.get? key = other.get? key) :
    (request.applied store).get? key = (request.applied other).get? key := by
  cases request with
  | put own value => rw [applied, applied, Store.get?_insert, Store.get?_insert, same]
  | delete own => rw [applied, applied, Store.get?_erase, Store.get?_erase, same]
  | get own | contains own | close => exact same

/-- What a key holds after some calls is the work of those on the key. -/
theorem get?_foldl_applied (requests : List Request) (same : store.get? key = other.get? key) :
    (requests.foldl applied store).get? key = ((on key requests).foldl applied other).get? key := by
  induction requests generalizing store other with
  | nil => exact same
  | cons request rest ih =>
      rw [on_cons]
      split
      · exact ih (get?_applied_congr request same)
      · rename_i apart
        exact ih ((get?_applied_of_ne apart store).trans same)

theorem on_append (key : Bytes) (first second : List Request) :
    on key (first ++ second) = on key first ++ on key second := List.filter_append ..

end Request

namespace Engine

variable {start : σ} {calls others : List (σ × Request)} {key : Bytes} {order : List Request}
  {request : Request} {met other : σ}

/-- If the calls on a key come in a given order, the state that one of them meets is known as far
as the key goes. -/
theorem Chained.exists_before (chained : engine.Chained start calls)
    (closes : .close ∉ calls.map Prod.snd) (ordered : Request.on key (calls.map Prod.snd) <+: order)
    (different : order.Nodup) (keyed : request.key? = some key) (member : (met, request) ∈ calls) :
    ∃ before, met = engine.after start before ∧ .close ∉ before ∧
      Request.on key before = order.takeWhile (· ≠ request) := by
  obtain ⟨before, rest, rfl⟩ := List.append_of_mem member
  refine ⟨before.map Prod.snd, chained rfl, ?_, ?_⟩
  · intro early
    rw [List.map_append] at closes
    exact closes (List.mem_append_left _ early)
  · -- The call comes once in the order, so the calls on its key before it are those ahead of it.
    rw [List.map_append, List.map_cons, Request.on_append, Request.on_cons, if_pos keyed] at ordered
    obtain ⟨last, rfl⟩ := ordered
    rw [List.append_assoc, List.cons_append] at different ⊢
    have fresh : request ∉ Request.on key (before.map Prod.snd) := fun early =>
      (List.nodup_append.mp different).2.2 request early request List.mem_cons_self rfl
    rw [List.takeWhile_append_of_pos, List.takeWhile_cons_of_neg, List.append_nil]
    · simp
    · intro early present
      simpa using ne_of_mem_of_not_mem present fresh

/-- Two runs of an engine that keeps keys apart answer a call alike, if they make the calls on its
key in the same order. -/
theorem Keyed.answer_congr (keyed : engine.Keyed start) (first : engine.Chained start calls)
    (second : engine.Chained start others) (closes : .close ∉ calls.map Prod.snd)
    (closes' : .close ∉ others.map Prod.snd)
    (ordered : Request.on key (calls.map Prod.snd) <+: order)
    (ordered' : Request.on key (others.map Prod.snd) <+: order) (different : order.Nodup)
    (own : request.key? = some key) (member : (met, request) ∈ calls)
    (again : (other, request) ∈ others) : (engine request met).1 = (engine request other).1 := by
  obtain ⟨earlier, rfl, early, same⟩ := first.exists_before closes ordered different own member
  obtain ⟨before, rfl, late, alike⟩ := second.exists_before closes' ordered' different own again
  exact keyed own early late (same.trans alike.symm)

end Engine

/-- Whether a request goes to one of some keys. -/
def Request.isAmong (keys : List Bytes) (request : Request) : Bool :=
  request.key?.any keys.contains

/-- Those of some calls that go to one of some keys. -/
def callsAmong (keys : List Bytes) (calls : List (σ × Request)) : List (σ × Request) :=
  calls.filter fun call => call.2.isAmong keys

section Among

variable {key : Bytes} {keys first second : List Bytes} {request : Request}

theorem Request.isAmong_iff :
    request.isAmong keys = true ↔ ∃ key ∈ keys, request.key? = some key := by
  unfold isAmong
  cases request.key? with
  | none => simp
  | some key => simp

theorem Request.isAmong_append :
    request.isAmong (first ++ second) = (request.isAmong first || request.isAmong second) := by
  unfold isAmong
  cases request.key? with
  | none => rfl
  | some key => simp

theorem Request.not_isAmong (apart : ∀ key ∈ first, key ∉ second)
    (own : request.isAmong first = true) : request.isAmong second = false := by
  obtain ⟨key, member, keyed⟩ := isAmong_iff.mp own
  simpa [isAmong, keyed] using apart key member

theorem on_callsAmong (member : key ∈ keys) (calls : List (σ × Request)) :
    Request.on key ((callsAmong keys calls).map Prod.snd) =
      Request.on key (calls.map Prod.snd) := by
  unfold Request.on callsAmong
  rw [List.filter_map, List.filter_map, List.filter_filter]
  congr 1
  apply List.filter_congr
  intro call _
  by_cases keyed : call.2.key? = some key
  · simp [Request.isAmong, keyed, member]
  · simp [keyed]

/-- Calls on some keys and on others can be told apart, if no key is both. -/
theorem callsAmong_append (apart : ∀ key ∈ first, key ∉ second) (calls : List (σ × Request)) :
    (callsAmong (first ++ second) calls).Perm
      (callsAmong first calls ++ callsAmong second calls) := by
  let own (call : σ × Request) : Bool := call.2.isAmong first
  have split := List.filter_append_perm own (callsAmong (first ++ second) calls)
  have left : (callsAmong (first ++ second) calls).filter own = callsAmong first calls := by
    unfold callsAmong
    rw [List.filter_filter]
    apply List.filter_congr
    intro call _
    rw [Request.isAmong_append]
    dsimp only [own]
    cases call.2.isAmong first <;> rfl
  have right : (callsAmong (first ++ second) calls).filter (fun call => !own call) =
      callsAmong second calls := by
    unfold callsAmong
    rw [List.filter_filter]
    apply List.filter_congr
    intro call _
    rw [Request.isAmong_append]
    by_cases mine : call.2.isAmong first = true
    · simp [own, mine, Request.not_isAmong apart mine]
    · simp [own, mine]
  rw [left, right] at split
  exact split.symm

theorem callsAmong_flatMap {keysOf : Nat → List Bytes}
    (apart : ∀ {index other key}, key ∈ keysOf index → key ∈ keysOf other → index = other)
    (count : Nat) (calls : List (σ × Request)) :
    (callsAmong ((List.range count).flatMap keysOf) calls).Perm
      ((List.range count).flatMap fun index => callsAmong (keysOf index) calls) := by
  induction count with
  | zero =>
      apply List.Perm.of_eq
      apply List.filter_eq_nil_iff.mpr
      intro call _ own
      obtain ⟨key, member, _⟩ := Request.isAmong_iff.mp own
      cases member
  | succ count ih =>
      rw [List.range_succ, List.flatMap_append, List.flatMap_append, List.flatMap_singleton,
        List.flatMap_singleton]
      apply (callsAmong_append _ calls).trans (ih.append_right _)
      intro key member last
      obtain ⟨index, bound, own⟩ := List.mem_flatMap.mp member
      rw [List.mem_range] at bound
      exact absurd (apart own last) (Nat.ne_of_lt bound)

end Among

namespace MemoryEngine

variable {μ : Type} {handle left right : MemoryEngine} {save : Save μ} {medium changed : μ}
  {request : Request}

/-- Calls on keys are applied to the store of an open handle and change nothing else of it. -/
theorem after_answering (opened : handle.closed = false) {requests : List Request}
    (others : .close ∉ requests) (medium : μ) :
    ((answering save).after (handle, medium) requests).1 =
      { handle with store := requests.foldl Request.applied handle.store } := by
  induction requests generalizing handle medium with
  | nil => rfl
  | cons request rest ih =>
      rw [List.mem_cons, not_or] at others
      have step : (answering save request (handle, medium)).2 =
          ({ handle with store := request.applied handle.store },
            (answering save request (handle, medium)).2.2) :=
        Prod.ext (answering_handle opened (Ne.symm others.1)) rfl
      change ((answering save).after (answering save request (handle, medium)).2 rest).1 = _
      rw [step]
      exact @ih { handle with store := request.applied handle.store } opened others.2 _

theorem call_answer (opened : handle.closed = false) {key : Bytes}
    (keyed : request.key? = some key) :
    (answering save request (handle, medium)).1 =
      .ofResult (handle.perform save medium request).1 := by
  have other : request ≠ .close := by
    rintro rfl
    cases keyed
  rw [answering, call_of_open opened other]

/-- Two open handles that hold the same under a key answer a call on it alike. -/
theorem answering_congr (opened : left.closed = false) (opened' : right.closed = false)
    (saved : left.syncWrites = true → ∀ store medium, (save store medium).1 = .ok ())
    (mode : right.syncWrites = left.syncWrites) {key : Bytes}
    (keyed : request.key? = some key) (same : left.store.get? key = right.store.get? key) :
    (answering save request (left, medium)).1 = (answering save request (right, changed)).1 := by
  have saved' : right.syncWrites = true → ∀ store medium, (save store medium).1 = .ok () :=
    mode ▸ saved
  have present : left.store.contains key = right.store.contains key := by
    rw [Store.contains, Store.contains, same]
  rw [call_answer opened keyed, call_answer opened' keyed]
  congr 1
  cases request with
  | close => cases keyed
  | put own value => rw [perform, perform, keep_eq_ok saved, keep_eq_ok saved']
  | get own =>
      cases keyed
      rw [perform, perform, same]
      cases right.store.get? key <;> rfl
  | contains own =>
      cases keyed
      rw [perform, perform, present]
  | delete own =>
      cases keyed
      rw [perform, perform, present]
      cases right.store.contains key with
      | false => rfl
      | true => exact (keep_eq_ok saved _).trans (keep_eq_ok saved' _).symm

/-- **An open handle keeps keys apart**, if its changes can be saved. -/
theorem keyed_answering (opened : handle.closed = false)
    (saved : handle.syncWrites = true → ∀ store medium, (save store medium).1 = .ok ())
    (medium : μ) : (answering save).Keyed (handle, medium) := by
  intro request key keyed earlier other first second same
  have met := @after_answering _ _ save opened _ first medium
  have found := @after_answering _ _ save opened _ second medium
  cases early : (answering save).after (handle, medium) earlier with
  | mk left changed =>
      cases late : (answering save).after (handle, medium) other with
      | mk right kept =>
          rw [early] at met
          rw [late] at found
          dsimp only at met found
          subst met found
          apply answering_congr _ _ _ _ keyed _
          · exact opened
          · exact opened
          · exact saved
          · rfl
          · change (earlier.foldl Request.applied handle.store).get? key =
              (other.foldl Request.applied handle.store).get? key
            rw [Request.get?_foldl_applied earlier rfl, Request.get?_foldl_applied other rfl, same]

end MemoryEngine

end StoreTrial
