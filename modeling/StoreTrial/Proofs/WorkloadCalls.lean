import StoreTrial.Proofs.CallsInTurn
import StoreTrial.Proofs.DistinctPayloads
import StoreTrial.Proofs.MixedCalls

/-! # Calls of a workload

The calls that measuring a workload makes on any engine. Whatever the engine does, they are the
puts of its preparation and then the turn of each iteration, up to the first call that is refused
(`StoreTrial.Workload.ends_measure`). A refused call is therefore the last one, and the run ends
with what it was answered (`StoreTrial.Workload.refusal_ends_measure`).
-/

namespace StoreTrial

def Request.puts (entries : List (Bytes × Bytes)) : List Request :=
  entries.map fun (key, value) => .put key value

/-- What a case calls: puts while it is prepared, and in each iteration its turn. -/
structure Course where
  populated : List (Bytes × Bytes)
  turn : Nat → List Request

def Course.requests (course : Course) (iterations : Nat) : List Request :=
  Request.puts course.populated ++ (List.range iterations).flatMap course.turn

namespace Workload

/-- The numbers of the keys that a single operation finds populated. -/
def presentKeys : Operation → (iterations : Nat) → Nat
  | .put, _ | .insert, _ => 0
  | .get, _ | .contains, _ => 1
  | .delete, iterations => iterations

def singleRequest (operation : Operation) (value : Bytes) (iteration : Nat) : Request :=
  match operation with
  | .put | .insert => .put (Key.sequential "single-" iteration) value
  | .get => .get (Key.sequential "single-" 0)
  | .contains => .contains (Key.sequential "single-" 0)
  | .delete => .delete (Key.sequential "single-" iteration)

/-- The failure that a case is rejected with before it calls anything. -/
def rejection? : Workload → Option Failure
  | single _ _ | batch _ _ => none
  | randomGet population _ =>
      if population = 0 then some (.invalidOperation .emptyPopulation) else none
  | mixed plan =>
      if plan.items = 0 then some (.invalidOperation (.nothingToMix plan.name)) else none
  | putOnly plan =>
      if plan.items = 0 then some (.invalidOperation (.nothingToWrite plan.name)) else none

/-- Whether a case overwrites with empty values, of which there is no second one. -/
def lacksValues : Workload → Bool
  | mixed plan => plan.valueSize = 0
  | _ => false

/-- What stops the preparation of a case on an engine that refuses nothing. -/
def setback? (workload : Workload) : Option Stop :=
  match workload.rejection? with
  | some failure => some (.failed failure)
  | none =>
      if workload.lacksValues then some (.panicked "assertion failed: mid <= self.len()") else none

variable {ε : Type} [EntropySource ε]

def course : (workload : Workload) → (iterations : Nat) → Draw ε Course
  | single operation valueSize, iterations => do
      let value ← Generator.value valueSize
      let keys := Key.sequentialKeys "single-" (presentKeys operation iterations)
      return ⟨keys.map (·, value), fun iteration => [singleRequest operation value iteration]⟩
  | batch size valueSize, _ => do
      let values ← Draw.replicate (Generator.value valueSize) size
      let entries := (Key.sequentialKeys "batch-" size).zip values
      return ⟨[], fun _ => Request.puts entries⟩
  | randomGet population valueSize, _ => do
      let value ← Generator.value valueSize
      let keys := Key.sequentialKeys "random-" population
      return ⟨keys.map (·, value),
        fun iteration => [.get (Key.sequential "random-" (iteration % population))]⟩
  | mixed plan, _ => do
      let values ← MixedValues.draw plan
      let keys := Key.sequentialKeys "mixed-" plan.items
      return ⟨keys.map (·, values.populated),
        fun iteration => [mixedRequest plan values iteration]⟩
  | putOnly plan, _ => do
      let keys ← Generator.uniqueKeys plan.items plan.keySize
      let values ← Draw.replicate (Generator.value plan.valueSize) plan.items
      let entries := keys.zip values
      return ⟨[], fun iteration => Request.puts entries[iteration % plan.items]?.toList⟩

/-- The calls that a case makes when none of them is refused. -/
def requests (workload : Workload) (iterations : Nat) (generator : Generator ε) : List Request :=
  (workload.course iterations generator).value.requests
    (if workload.setback? = none then iterations else 0)

/-- The prepared keys and values let each iteration take its turn. -/
def Serves (workload : Workload) (prepared : Prepared) (course : Course) (iterations : Nat) :
    Prop :=
  ∀ iteration < iterations,
    Attempt.Makes (workload.step prepared iteration) (course.turn iteration) (.ok ())

/-- Preparing a case puts what its course has populated, and serves its iterations. -/
def Prepares (workload : Workload) (iterations : Nat) (generator : Generator ε) : Prop :=
  ∃ prepared,
    Probing.Makes (workload.prepare iterations) generator
      (Request.puts (workload.course iterations generator).value.populated) (.ok prepared)
      (workload.course iterations generator).generator ∧
    workload.Serves prepared (workload.course iterations generator).value iterations

theorem makes_puts (entries : List (Bytes × Bytes)) :
    Attempt.Makes (entries.forM fun (key, value) => Attempt.call (.put key value))
      (Request.puts entries) (.ok ()) := by
  rw [Request.puts, List.map_eq_flatMap]
  apply Attempt.makes_forM
  intro entry _
  exact Attempt.makes_of_asks fun _ _ => Attempt.asks_put _ _

theorem makes_populate (keys : List Bytes) (value : Bytes) :
    Attempt.Makes (populate keys value) (Request.puts (keys.map (·, value))) (.ok ()) := by
  have paired : populate keys value = (keys.map (·, value)).forM fun (key, value) =>
      Attempt.call (.put key value) := by
    symm
    exact List.forM_map
  rw [paired]
  exact makes_puts _

theorem element_sequentialKeys {stem : String} {count index : Nat} (bound : index < count) :
    Attempt.element (Key.sequentialKeys stem count).toArray index =
      pure (Key.sequential stem index) := by
  apply Attempt.element_of_getElem?
  simp [Key.sequentialKeys, bound]

theorem cyclicElement_sequentialKeys {stem : String} {count : Nat} (positive : 0 < count)
    (index : Nat) :
    Attempt.cyclicElement (Key.sequentialKeys stem count).toArray index =
      pure (Key.sequential stem (index % count)) := by
  apply Attempt.cyclicElement_of_getElem?
  simp [Key.sequentialKeys, Nat.mod_lt index positive]

section Prepare

variable {generator : Generator ε}

/-- The numbers of the keys that a single operation works with. -/
def keyCount : Operation → (iterations : Nat) → Nat
  | .put, iterations | .insert, iterations | .delete, iterations => iterations
  | .get, _ | .contains, _ => 1

theorem makes_stepSingle (operation : Operation) (value : Bytes) {iterations iteration : Nat}
    (bound : iteration < iterations) :
    Attempt.Makes
      (stepSingle operation
        ⟨(Key.sequentialKeys "single-" (keyCount operation iterations)).toArray, #[value]⟩
        iteration)
      [singleRequest operation value iteration] (.ok ()) := by
  have first : Attempt.element #[value] 0 = pure value := Attempt.element_of_getElem? rfl
  apply Attempt.makes_of_asks
  intro σ engine clock
  cases operation with
  | put | insert =>
      rw [stepSingle, keyCount, element_sequentialKeys bound, first, pure_bind, pure_bind]
      exact Attempt.asks_put _ _
  | delete =>
      rw [stepSingle, keyCount, element_sequentialKeys bound, pure_bind]
      exact Attempt.asks_delete _
  | get | contains =>
      rw [stepSingle, keyCount, element_sequentialKeys Nat.one_pos, pure_bind]
      exact Attempt.asks_discard_call _

theorem prepares_single (operation : Operation) (valueSize iterations : Nat)
    (generator : Generator ε) : (single operation valueSize).Prepares iterations generator := by
  let value := (Generator.value valueSize generator).value
  let keys := Key.sequentialKeys "single-" (keyCount operation iterations)
  refine ⟨⟨keys.toArray, #[value]⟩, ?_, fun iteration bound => makes_stepSingle _ _ bound⟩
  apply Probing.Makes.draw_bind
  have populates : Probing.Makes (liftM (populate keys value))
      (Generator.value valueSize generator).generator (Request.puts (keys.map (·, value)))
      (.ok ()) (Generator.value valueSize generator).generator :=
    Probing.makes_ofAttempt (makes_populate keys value) _
  cases operation with
  | put | insert => exact Probing.makes_pure _ _
  | get | contains | delete => exact populates.bind_pure _

theorem prepares_batch (size valueSize iterations : Nat) (generator : Generator ε) :
    (batch size valueSize).Prepares iterations generator := by
  refine ⟨_, .draw_bind (Probing.makes_pure _ _), ?_⟩
  intro iteration _
  exact makes_puts _

theorem prepares_randomGet {population : Nat} (populated : 0 < population)
    (valueSize iterations : Nat) (generator : Generator ε) :
    (randomGet population valueSize).Prepares iterations generator := by
  let value := (Generator.value valueSize generator).value
  let keys := Key.sequentialKeys "random-" population
  refine ⟨⟨keys.toArray, #[value]⟩, ?_, ?_⟩
  · rw [prepare, prepareRandomGet, if_neg (Nat.ne_of_gt populated)]
    exact .draw_bind ((Probing.makes_ofAttempt (makes_populate keys value) _).bind_pure _)
  · intro iteration _
    apply Attempt.makes_of_asks
    intro σ engine clock
    rw [step, stepRandomGet, cyclicElement_sequentialKeys populated, pure_bind]
    exact Attempt.asks_discard_call _

omit [EntropySource ε] in
theorem makes_toldApart {first second : Bytes}
    (filled : ¬(first = [] ∧ MixedValues.toldApart first second = [])) (keys : Array Bytes)
    (generator : Generator ε) :
    Probing.Makes
      (if second = first then do
        let second ← Prepared.rotate second
        return (⟨keys, #[first, second]⟩ : Prepared)
      else do
        let second ← pure second
        return ⟨keys, #[first, second]⟩)
      generator [] (.ok ⟨keys, #[first, MixedValues.toldApart first second]⟩) generator := by
  intro σ engine clock before
  exact ⟨[], .ok (), generator, before, ends_toldApart filled keys generator before, .finished _,
    fun _ => rfl⟩

theorem value_ne_nil {length : Nat} (positive : 0 < length) (generator : Generator ε) :
    (Generator.value length generator).value ≠ [] := by
  apply List.ne_nil_of_length_pos
  rwa [(Generator.isPayload_value length generator).full]

/-- A mix over items with values is prepared with the values that are drawn for it. -/
theorem makes_prepareMixed {plan : Plan} (items : 0 < plan.items) (valued : 0 < plan.valueSize)
    (generator : Generator ε) :
    let drawn := MixedValues.draw plan generator
    Probing.Makes (prepareMixed plan) generator
      (Request.puts ((Key.sequentialKeys "mixed-" plan.items).map (·, drawn.value.populated)))
      (.ok (mixedPrepared plan drawn.value)) drawn.generator := by
  intro drawn
  rw [prepareMixed, if_neg (Nat.ne_of_gt items), ← List.append_nil (Request.puts _)]
  have filled := value_ne_nil valued (Generator.value plan.valueSize generator).generator
  exact .draw_bind ((Probing.makes_ofAttempt (makes_populate _ _) _).bind
    (.draw_bind (.draw_bind (makes_toldApart (fun empty => filled empty.1) _ _))))

theorem prepares_mixed {plan : Plan} (items : 0 < plan.items) (valued : 0 < plan.valueSize)
    (iterations : Nat) (generator : Generator ε) :
    (mixed plan).Prepares iterations generator := by
  refine ⟨_, makes_prepareMixed items valued generator, ?_⟩
  intro iteration _
  exact Attempt.makes_of_asks fun _ _ => asks_stepMixed items iteration

theorem length_uniqueKeys (count length : Nat) (generator : Generator ε) :
    (Generator.uniqueKeys count length generator).value.length = count :=
  Generator.length_freeKeys length count 0 ∅ generator

theorem makes_stepPutOnly {keys values : List Bytes} (items : 0 < keys.length)
    (alike : values.length = keys.length) (iteration : Nat) :
    Attempt.Makes (stepPutOnly ⟨keys.toArray, values.toArray⟩ iteration)
      (Request.puts (keys.zip values)[iteration % keys.length]?.toList) (.ok ()) := by
  have bound := Nat.mod_lt iteration items
  have key := List.getElem?_eq_getElem bound
  have value : values[iteration % keys.length]? = some values[iteration % keys.length] :=
    List.getElem?_eq_getElem _
  have entry : (keys.zip values)[iteration % keys.length]? =
      some (keys[iteration % keys.length], values[iteration % keys.length]) := by
    rw [List.getElem?_zip_eq_some]
    exact ⟨key, value⟩
  have first : Attempt.cyclicElement keys.toArray iteration =
      pure keys[iteration % keys.length] := by
    apply Attempt.cyclicElement_of_getElem?
    rwa [List.size_toArray, List.getElem?_toArray]
  have second : Attempt.element values.toArray (iteration % keys.toArray.size) =
      pure values[iteration % keys.length] := by
    apply Attempt.element_of_getElem?
    rwa [List.size_toArray, List.getElem?_toArray]
  rw [stepPutOnly, first, pure_bind, second, pure_bind, entry]
  exact Attempt.makes_of_asks fun _ _ => Attempt.asks_put _ _

theorem prepares_putOnly {plan : Plan} (items : 0 < plan.items) (iterations : Nat)
    (generator : Generator ε) : (putOnly plan).Prepares iterations generator := by
  let drawn := Generator.uniqueKeys plan.items plan.keySize generator
  let values := Draw.replicate (Generator.value plan.valueSize) plan.items drawn.generator
  refine ⟨⟨drawn.value.toArray, values.value.toArray⟩, ?_, ?_⟩
  · rw [prepare, preparePutOnly, if_neg (Nat.ne_of_gt items)]
    exact .draw_bind (.draw_bind (Probing.makes_pure _ _))
  · intro iteration _
    have size : drawn.value.length = plan.items := length_uniqueKeys _ _ _
    have full : values.value.length = drawn.value.length := by rw [size, Draw.length_replicate]
    have makes := makes_stepPutOnly (by rwa [size]) full iteration
    rwa [size] at makes

/-- A case that nothing sets back prepares, and serves its iterations. -/
theorem prepares_of_setback {workload : Workload} (fine : workload.setback? = none)
    (iterations : Nat) (generator : Generator ε) : workload.Prepares iterations generator := by
  cases workload with
  | single operation valueSize => exact prepares_single _ _ _ _
  | batch size valueSize => exact prepares_batch _ _ _ _
  | randomGet population valueSize =>
      have populated : population ≠ 0 := by
        rintro rfl
        simp [setback?, rejection?] at fine
      exact prepares_randomGet (Nat.pos_of_ne_zero populated) _ _ _
  | mixed plan =>
      have items : plan.items ≠ 0 := by
        intro none
        simp [setback?, rejection?, none] at fine
      have valued : plan.valueSize ≠ 0 := by
        intro none
        simp [setback?, rejection?, items, lacksValues, none] at fine
      exact prepares_mixed (Nat.pos_of_ne_zero items) (Nat.pos_of_ne_zero valued) _ _
  | putOnly plan =>
      have items : plan.items ≠ 0 := by
        intro none
        simp [setback?, rejection?, none] at fine
      exact prepares_putOnly (Nat.pos_of_ne_zero items) _ _

omit [EntropySource ε] in
theorem makes_fail (failure : Failure) {α β : Type} (rest : α → Probing ε β)
    (generator : Generator ε) :
    Probing.Makes (liftM (Attempt.fail failure : Attempt α) >>= rest) generator []
      (.error (.failed failure)) generator :=
  (Probing.makes_ofAttempt (Attempt.makes_throw _) generator).bind_error

/-- Two empty values cannot be told apart. -/
theorem makes_prepareMixed_of_empty {plan : Plan} (items : 0 < plan.items)
    (empty : plan.valueSize = 0) (iterations : Nat) (generator : Generator ε) :
    Probing.Makes (prepareMixed plan) generator
      (Request.puts ((mixed plan).course iterations generator).value.populated)
      (.error (.panicked "assertion failed: mid <= self.len()"))
      ((mixed plan).course iterations generator).generator := by
  let keys := Key.sequentialKeys "mixed-" plan.items
  have none (generator : Generator ε) : (Generator.value plan.valueSize generator).value = [] := by
    rw [empty]
    exact List.length_eq_zero_iff.mp (Generator.isPayload_value 0 generator).full
  have rotated : Attempt.Makes (Prepared.rotate []) []
      (.error (.panicked "assertion failed: mid <= self.len()")) := Attempt.makes_throw _
  rw [prepareMixed, if_neg (Nat.ne_of_gt items), ← List.append_nil (Request.puts _)]
  apply Probing.Makes.draw_bind
  apply (Probing.makes_ofAttempt (makes_populate keys _) _).bind
  apply Probing.Makes.draw_bind
  apply Probing.Makes.draw_bind
  rw [none, none, if_pos rfl]
  exact (Probing.makes_ofAttempt rotated _).bind_error

theorem populated_of_rejection? {workload : Workload} {failure : Failure}
    (rejected : workload.rejection? = some failure) (iterations : Nat) (generator : Generator ε) :
    (workload.course iterations generator).value.populated = [] := by
  cases workload with
  | single operation valueSize => cases rejected
  | batch size valueSize => cases rejected
  | putOnly plan => rfl
  | randomGet population valueSize =>
      have none : population = 0 := by
        by_contra some
        simp [rejection?, some] at rejected
      change (Key.sequentialKeys "random-" population).map _ = []
      rw [none]
      rfl
  | mixed plan =>
      have none : plan.items = 0 := by
        by_contra some
        simp [rejection?, some] at rejected
      change (Key.sequentialKeys "mixed-" plan.items).map _ = []
      rw [none]
      rfl

/-- A case that is set back still puts what its course has populated. -/
theorem makes_prepare_of_setback {workload : Workload} {stop : Stop}
    (setback : workload.setback? = some stop) (iterations : Nat) (generator : Generator ε) :
    ∃ drawn, Probing.Makes (workload.prepare iterations) generator
      (Request.puts (workload.course iterations generator).value.populated) (.error stop)
      drawn := by
  cases workload with
  | single operation valueSize => cases setback
  | batch size valueSize => cases setback
  | randomGet population valueSize =>
      by_cases none : population = 0
      · subst none
        cases setback
        exact ⟨_, makes_fail _ _ _⟩
      · simp [setback?, rejection?, none, lacksValues] at setback
  | mixed plan =>
      by_cases none : plan.items = 0
      · have rejected : (mixed plan).rejection? = _ := if_pos none
        rw [setback?, rejected] at setback
        cases setback
        rw [populated_of_rejection? rejected, prepare, prepareMixed, if_pos none]
        exact ⟨_, makes_fail _ _ _⟩
      · by_cases empty : plan.valueSize = 0
        · rw [setback?, rejection?, if_neg none, lacksValues, empty] at setback
          cases setback
          exact ⟨_, makes_prepareMixed_of_empty (Nat.pos_of_ne_zero none) empty _ _⟩
        · simp [setback?, rejection?, none, lacksValues, empty] at setback
  | putOnly plan =>
      by_cases none : plan.items = 0
      · rw [setback?, rejection?, if_pos none] at setback
        cases setback
        rw [prepare, preparePutOnly, if_pos none]
        exact ⟨_, makes_fail _ _ _⟩
      · simp [setback?, rejection?, none, lacksValues] at setback

end Prepare

theorem makes_reportedStep {workload : Workload} {prepared : Prepared} {iteration : Nat}
    {requests : List Request}
    (makes : Attempt.Makes (workload.step prepared iteration) requests (.ok ())) :
    Attempt.Makes (workload.reportedStep prepared iteration) requests (.ok ()) := by
  apply Attempt.Makes.rethrow _ makes
  intro σ engine clock stop state
  cases stop with
  | failed failure => exact (Attempt.ends_log _ state).bind (Attempt.ends_throw _ state)
  | panicked message => exact (Attempt.ends_pure _ state).bind (Attempt.ends_throw _ state)

theorem Serves.makes_iterate {workload : Workload} {prepared : Prepared} {course : Course}
    {iterations : Nat} (serves : workload.Serves prepared course iterations) :
    Attempt.Makes (workload.iterate prepared iterations)
      ((List.range iterations).flatMap course.turn) (.ok ()) := by
  rw [iterate, Attempt.forEachFrom_eq_forM, ← List.range_eq_range']
  apply Attempt.makes_forM
  intro iteration member
  exact makes_reportedStep (serves iteration (List.mem_range.mp member))

/-- How measuring a case ends, if no call is refused. -/
def EndsWith (workload : Workload) (iterations : Nat) (ending : Outcome Measurement) : Prop :=
  match workload.setback? with
  | some stop => ending = .error stop
  | none => ∃ elapsed, ending =
      .ok ⟨iterations, elapsed, wrapped (iterations * workload.bytesPerIteration)⟩

/-- A case that is prepared makes the calls of its iterations between two readings of the clock,
and is measured unless they fail. -/
theorem ends_measure_of_prepared {σ : Type} {workload : Workload} {iterations : Nat}
    {engine : Engine σ} {clock : Nat → Nat} {generator later : Generator ε}
    {before middle after : σ × Nat} {made more : List (σ × Request)} {prepared : Prepared}
    {outcome : Outcome Unit}
    (prepares : Probing.Ends engine clock (workload.prepare iterations) generator before made
      (.ok prepared) later middle)
    (iterates : Attempt.Ends engine clock (workload.iterate prepared iterations)
      (middle.1, middle.2 + 1) more outcome after) :
    ∃ elapsed instants,
      Probing.Ends engine clock (workload.measure iterations) generator before (made ++ more)
        (Outcome.followedBy outcome
          (.ok ⟨iterations, elapsed, wrapped (iterations * workload.bytesPerIteration)⟩))
        later (after.1, instants) := by
  have reads (met : σ × Nat) :
      Probing.Ends engine clock (liftM Attempt.instant) later met [] (.ok (clock met.2)) later
        (met.1, met.2 + 1) :=
    Probing.ends_ofAttempt (Attempt.ends_instant met.1 met.2) later
  cases outcome with
  | error stop =>
      exact ⟨0, after.2,
        prepares.bind ((reads middle).bind (Probing.ends_ofAttempt iterates later).bind_stop)⟩
  | ok done =>
      refine ⟨clock after.2 - clock middle.2, after.2 + 1, ?_⟩
      rw [← List.append_nil more]
      exact prepares.bind ((reads middle).bind ((Probing.ends_ofAttempt iterates later).bind
        ((reads after).bind (Probing.ends_pure _ _ _))))

/-- **On every engine a workload makes its requests in turn.** -/
theorem ends_measure {σ : Type} (workload : Workload) (iterations : Nat) (generator : Generator ε)
    (engine : Engine σ) (clock : Nat → Nat) (before : σ × Nat) :
    ∃ made outcome ending later after,
      Probing.Ends engine clock (workload.measure iterations) generator before made
        (Outcome.followedBy outcome ending) later after ∧
      engine.InTurn (workload.requests iterations generator) before.1 made outcome after.1 ∧
      workload.EndsWith iterations ending := by
  unfold requests Course.requests EndsWith
  cases setback : workload.setback? with
  | some stop =>
      obtain ⟨drawn, prepares⟩ := makes_prepare_of_setback setback iterations generator
      have makes : Probing.Makes (workload.measure iterations) generator _ (.error stop) drawn :=
        prepares.bind_error
      obtain ⟨made, outcome, later, after, ends, puts, _⟩ := makes engine clock before
      refine ⟨made, outcome, .error stop, later, after, ends, ?_, rfl⟩
      simpa using puts
  | none =>
      obtain ⟨prepared, prepares, serves⟩ := prepares_of_setback setback iterations generator
      obtain ⟨made, outcome, later, middle, starts, puts, _⟩ := prepares engine clock before
      obtain ⟨more, result, after, iterates, turns⟩ :=
        serves.makes_iterate engine clock (middle.1, middle.2 + 1)
      let ending (elapsed : Nat) : Measurement :=
        ⟨iterations, elapsed, wrapped (iterations * workload.bytesPerIteration)⟩
      rw [if_pos rfl]
      cases outcome with
      | error stop =>
          exact ⟨made, .error stop, .ok (ending 0), later, middle, starts.bind_stop,
            puts.append_of_error _, 0, rfl⟩
      | ok granted =>
          obtain ⟨elapsed, instants, ends⟩ := ends_measure_of_prepared starts iterates
          refine ⟨made ++ more, result, .ok (ending elapsed), later, (after.1, instants), ?_,
            puts.append turns, elapsed, rfl⟩
          cases result with
          | ok done => exact ends
          | error stop => exact ends

variable {σ : Type} {workload : Workload} {iterations : Nat} {ending : Outcome Measurement}

theorem setback?_of_rejection? {failure : Failure} (rejected : workload.rejection? = some failure) :
    workload.setback? = some (.failed failure) := by
  rw [setback?, rejected]

theorem lacksValues_eq_false (valued : ∀ plan, workload = .mixed plan → 0 < plan.valueSize) :
    workload.lacksValues = false := by
  cases workload with
  | mixed plan => simpa [lacksValues] using Nat.ne_of_gt (valued plan rfl)
  | single _ _ | batch _ _ | randomGet _ _ | putOnly _ => rfl

/-- Only its parameters set a case back, unless it overwrites with empty values. -/
theorem setback?_eq_none_iff (valued : workload.lacksValues = false) :
    workload.setback? = none ↔ workload.rejection? = none := by
  rw [setback?]
  cases workload.rejection? with
  | some failure => simp
  | none => simp [valued]

theorem EndsWith.exists_eq_ok_iff (ends : workload.EndsWith iterations ending) :
    (∃ measurement, ending = .ok measurement) ↔ workload.setback? = none := by
  unfold EndsWith at ends
  cases setback : workload.setback? with
  | some stop =>
      rw [setback] at ends
      simp [ends]
  | none =>
      rw [setback] at ends
      obtain ⟨elapsed, rfl⟩ := ends
      simp

theorem requests_of_rejection? {failure : Failure}
    (rejected : workload.rejection? = some failure) (iterations : Nat) (generator : Generator ε) :
    workload.requests iterations generator = [] := by
  unfold requests Course.requests
  rw [setback?_of_rejection? rejected, populated_of_rejection? rejected]
  rfl

/-- **A refused call is the last one, and its answer ends the run.** A run is measured exactly if
the case was not rejected and every call was granted; a rejected case calls nothing. -/
theorem refusal_ends_measure (workload : Workload)
    (valued : ∀ plan, workload = .mixed plan → 0 < plan.valueSize) (iterations : Nat)
    (generator : Generator ε) (engine : Engine σ) (clock : Nat → Nat) (start : σ × Nat) :
    let script := (workload.measure iterations).script generator
    let calls := script.calls engine clock start
    let outcome := (script.run (Probe.answer engine clock) start).1.1
    (∀ earlier later met request stop, calls = earlier ++ (met, request) :: later →
      (engine request met).1 = .error stop → later = [] ∧ outcome = .error stop) ∧
    ((∃ measurement, outcome = .ok measurement) ↔ workload.rejection? = none ∧
      ∀ call ∈ calls, ∃ answer, (engine call.2 call.1).1 = .ok answer) ∧
    (∀ failure, workload.rejection? = some failure →
      calls = [] ∧ outcome = .error (.failed failure)) ∧
    calls.map Prod.snd <+: workload.requests iterations generator ∧
    (∀ measurement, outcome = .ok measurement →
      calls.map Prod.snd = workload.requests iterations generator) := by
  intro script calls outcome
  obtain ⟨made, result, ending, later, after, ends, turns, ended⟩ :=
    ends_measure workload iterations generator engine clock start
  have all : calls = made := ends.calls
  have same : outcome = Outcome.followedBy result ending := by
    change (script.run _ start).1.1 = _
    rw [ends.run]
  rw [all, same]
  refine ⟨?_, ?_, ?_, turns.requests_prefix, ?_⟩
  · intro earlier later met request stop split denied
    obtain ⟨last, rfl⟩ := turns.stops split denied
    exact ⟨last, rfl⟩
  · rw [← turns.eq_ok_iff, ← setback?_eq_none_iff (lacksValues_eq_false valued),
      ← ended.exists_eq_ok_iff]
    cases result with
    | ok granted => simp [Outcome.followedBy]
    | error stop => simp [Outcome.followedBy]
  · intro failure rejected
    rw [requests_of_rejection? rejected] at turns
    rw [EndsWith, setback?_of_rejection? rejected] at ended
    generalize start.1 = first, after.1 = last at turns
    cases turns with
    | finished state => exact ⟨rfl, ended⟩
  · intro measurement fine
    cases result with
    | ok granted => exact turns.requests_eq rfl
    | error stop => cases fine

/-- Grants some calls and refuses every later one. -/
def granting (count : Nat) (failure : Failure) : Engine Nat := fun request granted =>
  if granted < count then
    match request with
    | .put _ _ | .delete _ | .close => (.ok (), granted + 1)
    | .get _ => (.ok [], granted + 1)
    | .contains _ => (.ok false, granted + 1)
  else (.error (.failed failure), granted)

/-- The first overwrite of a mix of two items is refused, and nothing is called after it. -/
theorem refusal_ends_measure_first_overwrite :
    let plan : Plan := { name := "m", keySize := 1, valueSize := 1, items := 2, mix := .mixed }
    let generator : Generator Source := { source := .unavailable, seed := defaultSeed }
    let failure : Failure := .engine "disk on fire"
    let script := (measure (.mixed plan) 5).script generator
    let calls := script.calls (granting 3 failure) id (0, 0)
    let overwrite : Request :=
      .put (mixedKey plan 1) ((MixedValues.draw plan generator).value.fresh plan 1)
    (∀ other, mixed plan = .mixed other → 0 < other.valueSize) ∧
      calls = calls.take 3 ++ (3, overwrite) :: [] ∧
      (granting 3 failure overwrite 3).1 = .error (.failed failure) ∧
      (script.run (Probe.answer (granting 3 failure) id) (0, 0)).1.1 =
        .error (.failed failure) := by
  intro plan generator failure script calls overwrite
  have valued : ∀ other, mixed plan = .mixed other → 0 < other.valueSize := by
    rintro other ⟨⟩
    exact Nat.one_pos
  have split : calls = calls.take 3 ++ (3, overwrite) :: [] := by decide +kernel
  have denied : (granting 3 failure overwrite 3).1 = .error (.failed failure) := rfl
  obtain ⟨refusal, -⟩ :=
    refusal_ends_measure (mixed plan) valued 5 generator (granting 3 failure) id (0, 0)
  refine ⟨valued, split, denied, ?_⟩
  -- Written out, the two runs are one term; otherwise they would be compared step by step.
  dsimp only [script]
  exact (refusal _ [] 3 overwrite _ split denied).2

end Workload

end StoreTrial
