import StoreTrial.Proofs.EngineProbing
import StoreTrial.Proofs.NumberedKeys

/-! # Calls of a mixed workload

The calls that measuring a mixed workload makes: one value is put under every key of the plan,
and then each iteration makes the call of its operation. They are made in this order on every
engine, up to the first that the engine refuses (`StoreTrial.Workload.ends_measure_mixed`).
-/

namespace StoreTrial

namespace Attempt

theorem element_of_getElem? {elements : Array Bytes} {index : Nat} {found : Bytes}
    (present : elements[index]? = some found) : element elements index = pure found := by
  rw [element, present]

theorem cyclicElement_of_getElem? {elements : Array Bytes} {index : Nat} {found : Bytes}
    (present : elements[index % elements.size]? = some found) :
    cyclicElement elements index = pure found := by
  have nonempty : elements.size ≠ 0 := by
    intro empty
    simp [empty] at present
  rw [cyclicElement, if_neg nonempty, element_of_getElem? present]

end Attempt

/-- The value that a mixed workload populates with, and the two that its overwrites take in
turn. -/
structure MixedValues where
  populated : Bytes
  first : Bytes
  second : Bytes
  deriving DecidableEq

namespace MixedValues

variable {ε : Type} [EntropySource ε]

/-- A second value, rotated if it is like the first. -/
def toldApart (first second : Bytes) : Bytes :=
  if second = first then second.drop 1 ++ second.take 1 else second

/-- Telling a value apart keeps its bytes, in another order at most. -/
theorem toldApart_perm {first second : Bytes} : (toldApart first second).Perm second := by
  rw [toldApart]
  split
  · exact List.perm_append_comm.trans (by rw [List.take_append_drop])
  · exact .refl second

/-- Draws the values for a plan. -/
def draw (plan : Plan) : Draw ε MixedValues := do
  let populated ← Generator.value plan.valueSize
  let first ← Generator.value plan.valueSize
  let second ← Generator.value plan.valueSize
  return ⟨populated, first, toldApart first second⟩

/-- The value that an iteration overwrites with. -/
def fresh (values : MixedValues) (plan : Plan) (iteration : Nat) : Bytes :=
  if iteration / plan.mix.cycle.length % 2 = 0 then values.first else values.second

end MixedValues

namespace Workload

/-- The key that an iteration of a mixed workload goes to. -/
def mixedKey (plan : Plan) (iteration : Nat) : Bytes :=
  Key.sequential "mixed-" (iteration % plan.items)

/-- The call of an iteration of a mixed workload. -/
def mixedRequest (plan : Plan) (values : MixedValues) (iteration : Nat) : Request :=
  match plan.mix.operation iteration with
  | .get => .get (mixedKey plan iteration)
  | .put => .put (mixedKey plan iteration) (values.fresh plan iteration)
  | .contains => .contains (mixedKey plan iteration)
  | .delete => .delete (mixedKey plan iteration)
  | .insert => .put (Key.insertion iteration) (values.fresh plan iteration)

/-- The call at each place, when populating comes before the iterations. -/
def mixedCall (plan : Plan) (values : MixedValues) (place : Nat) : Request :=
  if place < plan.items then .put (Key.sequential "mixed-" place) values.populated
  else mixedRequest plan values (place - plan.items)

/-- What the iterations of a mixed workload use. -/
def mixedPrepared (plan : Plan) (values : MixedValues) : Prepared :=
  ⟨(Key.sequentialKeys "mixed-" plan.items).toArray, #[values.first, values.second]⟩

variable {σ : Type} {engine : Engine σ} {clock : Nat → Nat} {plan : Plan} {values : MixedValues}

theorem asks_stepMixed (items : 0 < plan.items) (iteration : Nat) :
    Attempt.Asks engine clock (stepMixed plan (mixedPrepared plan values) iteration)
      (mixedRequest plan values iteration) := by
  have key : Attempt.cyclicElement (mixedPrepared plan values).keys iteration =
      pure (mixedKey plan iteration) := by
    apply Attempt.cyclicElement_of_getElem?
    have bound := Nat.mod_lt iteration items
    simp [mixedPrepared, Key.sequentialKeys, mixedKey, bound]
  have fresh : freshValue plan (mixedPrepared plan values) iteration =
      pure (values.fresh plan iteration) := by
    apply Attempt.element_of_getElem?
    rw [MixedValues.fresh, mixedPrepared]
    rcases Nat.mod_two_eq_zero_or_one (iteration / plan.mix.cycle.length) with even | odd
    · simp [even]
    · simp [odd]
  rw [stepMixed, key, fresh, pure_bind, pure_bind, mixedRequest]
  cases plan.mix.operation iteration with
  | get => exact Attempt.asks_discard_call _
  | put => exact Attempt.asks_put _ _
  | contains => exact Attempt.asks_discard_call _
  | delete => exact Attempt.asks_delete _
  | insert => exact Attempt.asks_put _ _

theorem asks_reportedStep_mixed (items : 0 < plan.items) (iteration : Nat) :
    Attempt.Asks engine clock
      (reportedStep (.mixed plan) (mixedPrepared plan values) iteration)
      (mixedRequest plan values iteration) := by
  intro state readings
  apply Attempt.Ends.rethrow _ (asks_stepMixed items iteration state readings)
  intro stop met
  cases stop with
  | failed failure => exact (Attempt.ends_log _ met).bind (Attempt.ends_throw _ met)
  | panicked message => exact (Attempt.ends_pure _ met).bind (Attempt.ends_throw _ met)

/-- Keys of numbers are populated one after another. -/
theorem ends_populate {request : Nat → Request} {invariant : Nat → σ → Prop} {stem : String}
    {count : Nat} {value : Bytes}
    (puts : ∀ number < count, request number = .put (Key.sequential stem number) value)
    (kept : HandsOn engine request invariant) (clock : Nat → Nat) (state : σ) (readings : Nat)
    (holds : invariant 0 state) :
    ∃ made outcome left,
      Attempt.Ends engine clock (populate (Key.sequentialKeys stem count) value)
        (state, readings) made outcome (left, readings) ∧
      Follows invariant request 0 made left ∧ Settled engine count made () outcome := by
  have numbered : populate (Key.sequentialKeys stem count) value =
      Attempt.forEachFrom 0 count fun number =>
        Attempt.call (.put (Key.sequential stem number) value) := by
    rw [Attempt.forEachFrom_eq_forM, ← List.range_eq_range', populate, Key.sequentialKeys]
    exact List.forM_map
  rw [numbered]
  apply Attempt.ends_forEachFrom kept _ state readings holds
  intro number bound
  rw [puts number (by omega)]
  exact Attempt.asks_put _ _

theorem mixedCall_of_lt {place : Nat} (early : place < plan.items) :
    mixedCall plan values place = .put (Key.sequential "mixed-" place) values.populated := by
  rw [mixedCall, if_pos early]

theorem mixedCall_add_items (iteration : Nat) :
    mixedCall plan values (plan.items + iteration) = mixedRequest plan values iteration := by
  rw [mixedCall, if_neg (by omega), Nat.add_sub_cancel_left]

variable {ε : Type}

/-- A second value that was drawn like the first is rotated, which works unless both are
empty. -/
theorem ends_toldApart {first second : Bytes}
    (filled : ¬(first = [] ∧ MixedValues.toldApart first second = [])) (keys : Array Bytes)
    (generator : Generator ε) (state : σ × Nat) :
    Probing.Ends engine clock
      (if second = first then do
        let second ← Prepared.rotate second
        return (⟨keys, #[first, second]⟩ : Prepared)
      else do
        let second ← pure second
        return ⟨keys, #[first, second]⟩)
      generator state [] (.ok ⟨keys, #[first, MixedValues.toldApart first second]⟩) generator
      state := by
  rw [MixedValues.toldApart] at filled ⊢
  by_cases same : second = first
  · rw [if_pos same] at filled ⊢
    rw [if_pos same]
    cases second with
    | nil => exact absurd ⟨same.symm, rfl⟩ filled
    | cons head tail =>
        have rotated : Attempt.Ends engine clock (Prepared.rotate (head :: tail)) state []
            (.ok (tail ++ [head])) state := Attempt.ends_pure _ _
        exact (Probing.ends_ofAttempt rotated generator).bind (Probing.ends_pure _ _ _)
  · rw [if_neg same, if_neg same]
    exact (Probing.ends_pure _ _ _).bind (Probing.ends_pure _ _ _)

variable [EntropySource ε] {generator : Generator ε} {invariant : Nat → σ → Prop}

theorem ends_prepareMixed (items : 0 < plan.items)
    (drawn : (MixedValues.draw plan generator).value = values)
    (filled : ¬(values.first = [] ∧ values.second = []))
    (kept : HandsOn engine (mixedCall plan values) invariant) (clock : Nat → Nat) (state : σ)
    (readings : Nat) (holds : invariant 0 state) :
    ∃ made outcome later left,
      Probing.Ends engine clock (prepareMixed plan) generator (state, readings) made outcome later
        (left, readings) ∧
      Follows invariant (mixedCall plan values) 0 made left ∧
      Settled engine plan.items made (mixedPrepared plan values) outcome := by
  subst drawn
  rw [prepareMixed]
  simp only [Nat.ne_of_gt items, if_false]
  obtain ⟨made, outcome, left, ends, follows, ending⟩ :=
    ends_populate (fun _ => mixedCall_of_lt) kept clock state readings holds
  rcases ending with ⟨rfl, full⟩ | ⟨stop, refused, rfl⟩
  · refine ⟨made, _, (MixedValues.draw plan generator).generator, left, ?_, follows,
      .inl ⟨rfl, full⟩⟩
    rw [← List.append_nil made]
    exact (Probing.ends_draw _ _ _).bind ((Probing.ends_ofAttempt ends _).bind
      ((Probing.ends_draw _ _ _).bind ((Probing.ends_draw _ _ _).bind
        (ends_toldApart filled _ _ _))))
  · refine ⟨made, _, (Generator.value plan.valueSize generator).generator, left, ?_, follows,
      .inr ⟨stop, refused, rfl⟩⟩
    exact (Probing.ends_draw _ _ _).bind (Probing.ends_ofAttempt ends _).bind_stop

theorem ends_iterate_mixed (items : 0 < plan.items)
    (kept : HandsOn engine (mixedCall plan values) invariant) (clock : Nat → Nat)
    (iterations : Nat) (state : σ) (readings : Nat) (holds : invariant plan.items state) :
    ∃ made outcome left,
      Attempt.Ends engine clock (iterate (.mixed plan) (mixedPrepared plan values) iterations)
        (state, readings) made outcome (left, readings) ∧
      Follows invariant (mixedCall plan values) plan.items made left ∧
      Settled engine iterations made () outcome := by
  have asks : ∀ iteration < 0 + iterations, Attempt.Asks engine clock
      (reportedStep (.mixed plan) (mixedPrepared plan values) iteration)
      (mixedCall plan values (plan.items + iteration)) := by
    intro iteration _
    rw [mixedCall_add_items]
    exact asks_reportedStep_mixed items iteration
  obtain ⟨made, outcome, left, ends, follows, ending⟩ :=
    Attempt.ends_forEachFrom (fun iteration => kept (plan.items + iteration)) asks state readings
      holds
  exact ⟨made, outcome, left, ends, follows.shift, ending⟩

/-- **Measuring a mixed workload populates the keys of the plan and then makes the call of each
iteration.** What every call hands on to the next holds whenever one is made. -/
theorem ends_measure_mixed (items : 0 < plan.items)
    (drawn : (MixedValues.draw plan generator).value = values)
    (filled : ¬(values.first = [] ∧ values.second = []))
    (kept : HandsOn engine (mixedCall plan values) invariant) (clock : Nat → Nat)
    (iterations : Nat) (state : σ) (readings : Nat) (holds : invariant 0 state) :
    ∃ made outcome later left elapsed,
      Probing.Ends engine clock (measure (.mixed plan) iterations) generator (state, readings) made
        outcome later left ∧
      Follows invariant (mixedCall plan values) 0 made left.1 ∧
      Settled engine (plan.items + iterations) made
        ⟨iterations, elapsed, wrapped (iterations * plan.valueSize)⟩ outcome := by
  obtain ⟨made, outcome, later, middle, prepares, populates, ending⟩ :=
    ends_prepareMixed items drawn filled kept clock state readings holds
  rcases ending with ⟨rfl, full⟩ | ⟨stop, refused, rfl⟩
  · have holds : invariant (0 + made.length) middle := populates.left
    rw [Nat.zero_add, full] at holds
    obtain ⟨more, outcome, left, iterates, follows, ending⟩ :=
      ends_iterate_mixed items kept clock iterations middle (readings + 1) holds
    have calls : Follows invariant (mixedCall plan values) 0 (made ++ more) left := by
      apply populates.append
      rw [Nat.zero_add, full]
      exact follows
    rcases ending with ⟨rfl, all⟩ | ⟨stop, refused, rfl⟩
    · refine ⟨made ++ more, _, later, (left, readings + 1 + 1),
        clock (readings + 1) - clock readings, ?_, calls,
        .inl ⟨rfl, by rw [List.length_append, full, all]⟩⟩
      rw [← List.append_nil more]
      exact prepares.bind ((Probing.ends_ofAttempt (Attempt.ends_instant _ _) _).bind
        ((Probing.ends_ofAttempt iterates _).bind
          ((Probing.ends_ofAttempt (Attempt.ends_instant _ _) _).bind (Probing.ends_pure _ _ _))))
    · refine ⟨made ++ more, _, later, (left, readings + 1), 0, ?_, calls,
        .inr ⟨stop, refused.append _, rfl⟩⟩
      exact prepares.bind ((Probing.ends_ofAttempt (Attempt.ends_instant _ _) _).bind
        (Probing.ends_ofAttempt iterates _).bind_stop)
  · exact ⟨made, _, later, (middle, readings), 0, prepares.bind_stop, populates,
      .inr ⟨stop, refused, rfl⟩⟩

end Workload

end StoreTrial
