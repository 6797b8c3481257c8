import StoreTrial.Proofs.EngineCalls
import StoreTrial.Workload.Measured

/-! # Scripts against an engine

What a script that probes an engine does to it: which calls it makes, the state that each of
them meets, and how it ends. Scripts are followed from one call to the next, through
everything that is not a call (`StoreTrial.Attempt.Ends.bind`,
`StoreTrial.Probing.Ends.bind`), and a loop of calls hands on what each of its calls hands on
(`StoreTrial.Attempt.ends_forEachFrom`).
-/

namespace StoreTrial

/-- An engine, as what it answers in each state and the state after that. -/
abbrev Engine (σ : Type) := (request : Request) → σ → Outcome request.Answer × σ

variable {σ α β : Type}

/-- The call that a probe is, with the state that the engine is in. -/
def Probe.callAt (state : σ) : Probe → List (σ × Request)
  | .call request => [(state, request)]
  | .instant | .log _ => []

/-- What a probe is told by an engine beside a clock, given by its readings. The state counts
the readings made. -/
def Probe.answer (engine : Engine σ) (clock : Nat → Nat) :
    (probe : Probe) → σ × Nat → probe.Reply × (σ × Nat)
  | .call request, (state, readings) =>
      let (reply, left) := engine request state
      (reply, left, readings)
  | .instant, (state, readings) => (clock readings, state, readings + 1)
  | .log _, state => ((), state)

/-- The calls that a script makes, each with the state it meets. -/
def Script.calls (engine : Engine σ) (clock : Nat → Nat) :
    Script Probe.Reply α → σ × Nat → List (σ × Request)
  | .done _, _ => []
  | .ask probe next, state =>
      probe.callAt state.1 ++
        (next (probe.answer engine clock state).1).calls engine clock
          (probe.answer engine clock state).2

variable {engine : Engine σ} {clock : Nat → Nat}

theorem Script.calls_bind (script : Script Probe.Reply α) (rest : α → Script Probe.Reply β)
    (state : σ × Nat) :
    (script.bind rest).calls engine clock state =
      script.calls engine clock state ++
        (rest (script.run (Probe.answer engine clock) state).1).calls engine clock
          (script.run (Probe.answer engine clock) state).2 := by
  induction script generalizing state with
  | done value => rfl
  | ask probe next ih => simp only [bind, calls, run, ih, List.append_assoc]

/-- From one state a script makes these calls and gives this value in another state. -/
structure Script.Ends (engine : Engine σ) (clock : Nat → Nat) (script : Script Probe.Reply α)
    (before : σ × Nat) (made : List (σ × Request)) (value : α) (after : σ × Nat) : Prop where
  calls : script.calls engine clock before = made
  run : script.run (Probe.answer engine clock) before = (value, after)

namespace Script

variable {before middle after : σ × Nat} {made more : List (σ × Request)}

theorem Ends.done (value : α) (state : σ × Nat) :
    Ends engine clock (.done value) state [] value state :=
  ⟨rfl, rfl⟩

theorem Ends.bind {script : Script Probe.Reply α} {rest : α → Script Probe.Reply β} {value : α}
    {last : β} (first : Ends engine clock script before made value middle)
    (second : Ends engine clock (rest value) middle more last after) :
    Ends engine clock (script.bind rest) before (made ++ more) last after where
  calls := by rw [calls_bind, first.calls, first.run, second.calls]
  run := by rw [run_bind, first.run, second.run]

end Script

/-- What is said of the number of each call is said of the next number after the call. -/
def HandsOn (engine : Engine σ) (request : Nat → Request) (invariant : Nat → σ → Prop) : Prop :=
  ∀ number state, invariant number state → invariant (number + 1) (engine (request number) state).2

/-- Calls are those numbered from `first` on, and what is said of each number holds when its
call is made, and of the next number in the end. -/
structure Follows (invariant : Nat → σ → Prop) (request : Nat → Request) (first : Nat)
    (made : List (σ × Request)) (after : σ) : Prop where
  each : ∀ {number met call}, made[number]? = some (met, call) →
    invariant (first + number) met ∧ call = request (first + number)
  left : invariant (first + made.length) after

namespace Follows

variable {invariant : Nat → σ → Prop} {request : Nat → Request} {first : Nat}
  {made more : List (σ × Request)} {before middle after : σ}

theorem nil (holds : invariant first after) : Follows invariant request first [] after where
  each found := by cases found
  left := holds

theorem single (holds : invariant first before) (kept : invariant (first + 1) after) :
    Follows invariant request first [(before, request first)] after where
  each := by
    intro number met call found
    cases number with
    | zero =>
        cases found
        exact ⟨holds, rfl⟩
    | succ number => cases found
  left := kept

theorem append (start : Follows invariant request first made middle)
    (rest : Follows invariant request (first + made.length) more after) :
    Follows invariant request first (made ++ more) after where
  each := by
    intro number met call found
    by_cases early : number < made.length
    · rw [List.getElem?_append_left early] at found
      exact start.each found
    · rw [List.getElem?_append_right (by omega)] at found
      have later := rest.each found
      rwa [Nat.add_assoc, Nat.add_sub_cancel' (by omega)] at later
  left := by
    rw [List.length_append, ← Nat.add_assoc]
    exact rest.left

/-- The numbers may count from later on. -/
theorem shift {base : Nat}
    (follows : Follows (fun number => invariant (base + number))
      (fun number => request (base + number)) first made after) :
    Follows invariant request (base + first) made after where
  each := by
    intro number met call found
    rw [Nat.add_assoc]
    exact follows.each found
  left := by
    rw [Nat.add_assoc]
    exact follows.left

end Follows

/-- The last call was refused, and this is what it was answered. -/
def Refused (engine : Engine σ) (made : List (σ × Request)) (stop : Stop) : Prop :=
  ∃ met call, made.getLast? = some (met, call) ∧ (engine call met).1 = .error stop

/-- Calls that are never refused are not refused at the end. -/
theorem Follows.not_refused {invariant : Nat → σ → Prop} {request : Nat → Request} {first : Nat}
    {made : List (σ × Request)} {after : σ} (follows : Follows invariant request first made after)
    (answers : ∀ number state, invariant number state →
      ∀ stop, (engine (request number) state).1 ≠ .error stop)
    (stop : Stop) : ¬Refused engine made stop := by
  rintro ⟨met, call, last, answered⟩
  rw [List.getLast?_eq_getElem?] at last
  obtain ⟨holds, rfl⟩ := follows.each last
  exact answers _ met holds stop answered

theorem Refused.append {made : List (σ × Request)} {stop : Stop}
    (refused : Refused engine made stop) (earlier : List (σ × Request)) :
    Refused engine (earlier ++ made) stop := by
  obtain ⟨met, call, last, answered⟩ := refused
  exact ⟨met, call, by rw [List.getLast?_append, last]; rfl, answered⟩

/-- All of a number of calls were made and a value was given, or the last call was refused and
what it was answered is given. -/
def Settled (engine : Engine σ) (count : Nat) (made : List (σ × Request)) (value : α)
    (outcome : Outcome α) : Prop :=
  outcome = .ok value ∧ made.length = count ∨
    ∃ stop, Refused engine made stop ∧ outcome = .error stop

namespace Attempt

/-- From one state an attempt makes these calls and has this outcome in another state. -/
abbrev Ends (engine : Engine σ) (clock : Nat → Nat) (attempt : Attempt α) :=
  Script.Ends engine clock attempt.script

variable {before middle after : σ × Nat} {made more : List (σ × Request)} {stop : Stop}

theorem ends_pure (value : α) (state : σ × Nat) :
    Ends engine clock (pure value) state [] (.ok value) state :=
  .done _ _

theorem ends_throw (stop : Stop) (state : σ × Nat) :
    Ends engine clock (throw stop : Attempt α) state [] (.error stop) state :=
  .done _ _

theorem ends_call (request : Request) (state : σ) (readings : Nat) :
    Ends engine clock (call request) (state, readings) [(state, request)]
      (engine request state).1 ((engine request state).2, readings) :=
  ⟨rfl, rfl⟩

theorem ends_log (event : Event) (state : σ × Nat) :
    Ends engine clock (log event) state [] (.ok ()) state :=
  ⟨rfl, rfl⟩

theorem ends_instant (state : σ) (readings : Nat) :
    Ends engine clock instant (state, readings) [] (.ok (clock readings)) (state, readings + 1) :=
  ⟨rfl, rfl⟩

theorem ends_lift {script : Script Probe.Reply α} {value : α}
    (ends : Script.Ends engine clock script before made value after) :
    Ends engine clock (ExceptT.lift script) before made (.ok value) after := by
  rw [← List.append_nil made]
  exact Script.Ends.bind ends (.done _ _)

theorem Ends.bind {attempt : Attempt α} {rest : α → Attempt β} {value : α} {outcome : Outcome β}
    (first : Ends engine clock attempt before made (.ok value) middle)
    (second : Ends engine clock (rest value) middle more outcome after) :
    Ends engine clock (attempt >>= rest) before (made ++ more) outcome after :=
  Script.Ends.bind first second

theorem Ends.bind_stop {attempt : Attempt α} {rest : α → Attempt β}
    (first : Ends engine clock attempt before made (.error stop) after) :
    Ends engine clock (attempt >>= rest) before made (.error stop) after := by
  have last : Script.Ends engine clock (ExceptT.bindCont rest (.error stop)) after []
      (.error stop) after := .done _ _
  rw [← List.append_nil made]
  exact Script.Ends.bind first last

/-- A failure that is handled without a call and then thrown again. -/
theorem Ends.rethrow {attempt : Attempt α} {outcome : Outcome α} {handler : Stop → Attempt α}
    (rethrows : ∀ stop state, Ends engine clock (handler stop) state [] (.error stop) state)
    (ends : Ends engine clock attempt before made outcome after) :
    Ends engine clock (tryCatch attempt handler) before made outcome after := by
  rw [← List.append_nil made]
  cases outcome with
  | ok value => exact Script.Ends.bind ends (.done _ _)
  | error stop => exact Script.Ends.bind ends (rethrows stop after)

/-- An attempt that makes one call and has its outcome. -/
def Asks (engine : Engine σ) (clock : Nat → Nat) (attempt : Attempt Unit) (request : Request) :
    Prop :=
  ∀ state readings, Ends engine clock attempt (state, readings) [(state, request)]
    ((engine request state).1.map fun _ => ()) ((engine request state).2, readings)

theorem map_unit (outcome : Outcome Unit) : (outcome.map fun _ => ()) = outcome := by
  cases outcome <;> rfl

theorem asks_discard_call (request : Request) :
    Asks engine clock (discard (call request)) request := by
  intro state readings
  have asked : Ends engine clock (call request) (state, readings) [(state, request)]
      (engine request state).1 ((engine request state).2, readings) := ends_call _ _ _
  change Ends engine clock (call request >>= fun _ => pure ()) _ _ _ _
  cases answered : (engine request state).1 with
  | ok value =>
      rw [answered] at asked
      exact asked.bind (ends_pure _ _)
  | error stop =>
      rw [answered] at asked
      exact asked.bind_stop

theorem asks_put (key value : Bytes) :
    Asks engine clock (call (.put key value)) (.put key value) := by
  intro state readings
  rw [map_unit]
  exact ends_call _ _ _

theorem asks_delete (key : Bytes) : Asks engine clock (call (.delete key)) (.delete key) := by
  intro state readings
  rw [map_unit]
  exact ends_call _ _ _

/-- Numbered attempts that make one call each, one after another until a call is refused. -/
theorem ends_forEachFrom {step : Nat → Attempt Unit} {request : Nat → Request}
    {invariant : Nat → σ → Prop} (kept : HandsOn engine request invariant) {count first : Nat}
    (asks : ∀ number < first + count, Asks engine clock (step number) (request number))
    (state : σ) (readings : Nat) (holds : invariant first state) :
    ∃ made outcome left,
      Ends engine clock (forEachFrom first count step) (state, readings) made outcome
        (left, readings) ∧
      Follows invariant request first made left ∧ Settled engine count made () outcome := by
  induction count generalizing first state with
  | zero => exact ⟨[], .ok (), state, ends_pure _ _, .nil holds, .inl ⟨rfl, rfl⟩⟩
  | succ count ih =>
      have asked := asks first (by omega) state readings
      have follows : Follows invariant request first [(state, request first)] _ :=
        .single holds (kept first state holds)
      cases answered : (engine (request first) state).1 with
      | error stop =>
          rw [answered] at asked
          have refused : Refused engine [(state, request first)] stop := ⟨_, _, rfl, answered⟩
          exact ⟨_, _, _, asked.bind_stop, follows, .inr ⟨stop, refused, rfl⟩⟩
      | ok value =>
          rw [answered] at asked
          have later : ∀ number < first + 1 + count,
              Asks engine clock (step number) (request number) := by
            intro number bound
            exact asks number (by omega)
          obtain ⟨made, outcome, left, ends, rest, ending⟩ := ih later _ follows.left
          refine ⟨_, outcome, left, asked.bind ends, follows.append rest, ?_⟩
          rcases ending with ⟨done, full⟩ | ⟨stop, refused, stopped⟩
          · exact .inl ⟨done, by rw [List.length_append, full, List.length_singleton, Nat.add_comm]⟩
          · exact .inr ⟨stop, refused.append _, stopped⟩

end Attempt

namespace Probing

variable {ε : Type} {before middle after : σ × Nat} {made more : List (σ × Request)}
  {generator drawn left : Generator ε}

/-- From one state and generator a probing makes these calls and has this outcome in another
state, with another generator. -/
abbrev Ends (engine : Engine σ) (clock : Nat → Nat) (probing : Probing ε α)
    (generator : Generator ε) (before : σ × Nat) (made : List (σ × Request)) (outcome : Outcome α)
    (left : Generator ε) (after : σ × Nat) : Prop :=
  Script.Ends engine clock (probing.script generator) before made (outcome, left) after

theorem ends_pure (value : α) (generator : Generator ε) (state : σ × Nat) :
    Ends engine clock (pure value) generator state [] (.ok value) generator state :=
  .done _ _

theorem Ends.bind {probing : Probing ε α} {rest : α → Probing ε β} {value : α}
    {outcome : Outcome β}
    (first : Ends engine clock probing generator before made (.ok value) drawn middle)
    (second : Ends engine clock (rest value) drawn middle more outcome left after) :
    Ends engine clock (probing >>= rest) generator before (made ++ more) outcome left after :=
  Script.Ends.bind first second

theorem Ends.bind_stop {probing : Probing ε α} {rest : α → Probing ε β} {stop : Stop}
    (first : Ends engine clock probing generator before made (.error stop) drawn after) :
    Ends engine clock (probing >>= rest) generator before made (.error stop) drawn after := by
  rw [← List.append_nil made]
  exact Script.Ends.bind first (.done _ _)

theorem ends_ofAttempt {attempt : Attempt α} {outcome : Outcome α}
    (ends : Attempt.Ends engine clock attempt before made outcome after) (generator : Generator ε) :
    Ends engine clock (liftM attempt) generator before made outcome generator after := by
  rw [← List.append_nil made]
  exact Script.Ends.bind ends (.done _ _)

/-- Drawing calls no engine. -/
theorem ends_draw (draw : Draw ε α) (generator : Generator ε) (state : σ × Nat) :
    Ends engine clock (Probing.draw draw) generator state [] (.ok (draw generator).value)
      (draw generator).generator state := by
  have reported (events : List Event) (generator : Generator ε) :
      Ends engine clock
        (events.forM fun event => (liftM (Attempt.log event) : Probing ε Unit)) generator state []
        (.ok ()) generator state := by
    induction events with
    | nil => exact ends_pure _ _ _
    | cons event events ih =>
        exact (ends_ofAttempt (Attempt.ends_log event state) generator).bind ih
  exact (reported (draw generator).events (draw generator).generator).bind (ends_pure _ _ _)

end Probing

namespace MemoryEngine

variable {μ : Type} {handle : MemoryEngine} {save : Save μ} {medium : μ} {request : Request}

/-- A handle over its medium, as an engine. -/
def answering (save : Save μ) : Engine (MemoryEngine × μ) := fun request (handle, medium) =>
  let (result, left) := handle.call save medium request
  (.ofResult result, left)

/-- An open handle stays as it is but for its store. -/
theorem answering_handle (opened : handle.closed = false) (other : request ≠ .close) :
    (answering save request (handle, medium)).2.1 =
      { handle with store := request.applied handle.store } := by
  rw [answering, call_of_open opened other]
  cases answer : handle.perform save medium request with
  | mk result left => exact (perform_eq answer).1

theorem keep_eq_ok
    (saved : handle.syncWrites = true → ∀ store medium, (save store medium).1 = .ok ())
    (store : Store) : (handle.keep save store medium).1 = .ok () := by
  by_cases sync : handle.syncWrites = true
  · rw [keep_of_syncWrites sync]
    exact saved sync store medium
  · rw [keep_of_not_syncWrites (by simpa using sync)]

/-- An open handle refuses no call but to get an absent key, if its changes can be saved. -/
theorem answering_ne_error (opened : handle.closed = false) (other : request ≠ .close)
    (saved : handle.syncWrites = true → ∀ store medium, (save store medium).1 = .ok ())
    (present : ∀ key, request = .get key → handle.store.get? key ≠ none) (stop : Stop) :
    (answering save request (handle, medium)).1 ≠ .error stop := by
  have accepted {result : Except Failure request.Answer}
      (answer : (handle.perform save medium request).1 = result)
      (fine : ∀ failure, result ≠ .error failure) :
      (answering save request (handle, medium)).1 ≠ .error stop := by
    change Outcome.ofResult (handle.call save medium request).1 ≠ _
    rw [call_of_open opened other, answer]
    cases result with
    | ok value => simp [Outcome.ofResult]
    | error failure => exact absurd rfl (fine failure)
  cases request with
  | put key value => exact accepted (keep_eq_ok saved _) (by simp)
  | get key =>
      obtain ⟨value, found⟩ := Option.ne_none_iff_exists'.mp (present key rfl)
      exact accepted (by rw [perform, found]) (by simp)
  | delete key =>
      by_cases held : handle.store.contains key = true
      · exact accepted (by rw [perform, if_pos held, keep_eq_ok saved]) (by simp)
      · exact accepted (by rw [perform, if_neg held]) (by simp)
  | contains key => exact accepted (by rw [perform]) (by simp)
  | close => exact absurd rfl other

end MemoryEngine

end StoreTrial
