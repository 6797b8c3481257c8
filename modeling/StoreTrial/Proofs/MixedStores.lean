import StoreTrial.Proofs.MixedOverwrites
import StoreTrial.Proofs.PayloadLetters

/-! # Stores of a mixed workload

What a mixed workload finds and leaves in the store of an open handle. The keys of the plan are
there from the first iteration on, and every insertion finds its key absent, so no call is
refused. In the end the keys of the plan and of the insertions hold what was last written under
them, and all other keys what they held before (`StoreTrial.Workload.measure_mixed_on_handle`).
-/

namespace StoreTrial

namespace Workload

variable {plan : Plan} {values : MixedValues}

/-- An iteration that inserts no key goes to a key of the plan. -/
theorem key?_mixedRequest {iteration : Nat} (other : plan.mix.operation iteration ≠ .insert) :
    (mixedRequest plan values iteration).key? = some (mixedKey plan iteration) := by
  rw [mixedRequest]
  cases operation : plan.mix.operation iteration with
  | insert => exact absurd operation other
  | get | put | contains | delete => rfl

theorem key?_mixedRequest_insert {iteration : Nat}
    (inserts : plan.mix.operation iteration = .insert) :
    (mixedRequest plan values iteration).key? = some (Key.insertion iteration) := by
  rw [mixedRequest, inserts]
  rfl

/-- A call that inserts no key goes to a key of the plan. -/
theorem key?_mixedCall (items : 0 < plan.items) {place : Nat}
    (other : plan.items ≤ place → plan.mix.operation (place - plan.items) ≠ .insert) :
    ∃ index < plan.items,
      (mixedCall plan values place).key? = some (Key.sequential "mixed-" index) := by
  by_cases populating : place < plan.items
  · refine ⟨place, populating, ?_⟩
    rw [mixedCall_of_lt populating, Request.key?]
  · refine ⟨(place - plan.items) % plan.items, Nat.mod_lt _ items, ?_⟩
    rw [mixedCall, if_neg populating, key?_mixedRequest (other (Nat.le_of_not_lt populating)),
      mixedKey]

end Workload

namespace MixedValues

variable {plan : Plan} {values : MixedValues} {start store : Store} {place : Nat}

/-- Before a call the iterations have inserted their keys, and every other key that is not one of
the plan is as it was in the beginning. -/
structure Inserted (plan : Plan) (values : MixedValues) (start : Store) (place : Nat)
    (store : Store) : Prop where
  inserted : ∀ iteration < place - plan.items, plan.mix.operation iteration = .insert →
    store.get? (Key.insertion iteration) = some (values.fresh plan iteration)
  kept : ∀ key, (∀ index < plan.items, key ≠ Key.sequential "mixed-" index) →
    (∀ iteration < place - plan.items, plan.mix.operation iteration = .insert →
      key ≠ Key.insertion iteration) →
    store.get? key = start.get? key

theorem inserted_zero (plan : Plan) (values : MixedValues) (start : Store) :
    Inserted plan values start 0 start where
  inserted := by
    intro iteration early
    omega
  kept _ _ _ := rfl

theorem Inserted.applied (items : 0 < plan.items)
    (before : Inserted plan values start place store) :
    Inserted plan values start (place + 1)
      ((Workload.mixedCall plan values place).applied store) := by
  by_cases inserts : plan.items ≤ place ∧ plan.mix.operation (place - plan.items) = .insert
  · obtain ⟨late, inserts⟩ := inserts
    obtain ⟨iteration, rfl⟩ := Nat.exists_eq_add_of_le late
    rw [Nat.add_sub_cancel_left] at inserts
    have call : Workload.mixedCall plan values (plan.items + iteration) =
        .put (Key.insertion iteration) (values.fresh plan iteration) := by
      rw [Workload.mixedCall_add_items, Workload.mixedRequest, inserts]
    rw [call, Request.applied]
    constructor
    · intro later bound operation
      simp only [Store.get?_insert, Key.insertion_inj]
      by_cases same : later = iteration
      · rw [if_pos same, same]
      · rw [if_neg same]
        exact before.inserted later (by omega) operation
    · intro key outside others
      rw [Store.get?_insert, if_neg (others iteration (by omega) inserts)]
      exact before.kept key outside fun later bound => others later (by omega)
  · have other : plan.items ≤ place → plan.mix.operation (place - plan.items) ≠ .insert :=
      fun late operation => inserts ⟨late, operation⟩
    obtain ⟨index, bound, item⟩ := @Workload.key?_mixedCall plan values items place other
    have frame {key : Bytes} (apart : key ≠ Key.sequential "mixed-" index) :
        ((Workload.mixedCall plan values place).applied store).get? key = store.get? key := by
      apply Request.get?_applied_of_ne
      rw [item, ne_eq, Option.some_inj]
      exact apart.symm
    constructor
    · intro later early operation
      have earlier : later ≠ place - plan.items := by
        rintro rfl
        exact other (by omega) operation
      rw [frame (sequential_ne_insertion index later).symm]
      exact before.inserted later (by omega) operation
    · intro key outside others
      rw [frame (outside index bound)]
      exact before.kept key outside fun later early => others later (by omega)

/-- No iteration finds the key that it inserts, if the store held no such key. -/
theorem Inserted.get?_insertion {iteration : Nat}
    (before : Inserted plan values start (plan.items + iteration) store)
    (unused : start.get? (Key.insertion iteration) = none) :
    store.get? (Key.insertion iteration) = none := by
  rw [before.kept, unused]
  · exact fun index _ => (sequential_ne_insertion index iteration).symm
  · intro earlier bound _ same
    rw [Key.insertion_inj] at same
    omega

variable {ε : Type} [EntropySource ε]

theorem length_first (plan : Plan) (generator : Generator ε) :
    (draw plan generator).value.first.length = plan.valueSize :=
  (Generator.isPayload_value plan.valueSize
    (Generator.value plan.valueSize generator).generator).full

end MixedValues

namespace Workload

variable {μ ε : Type} [EntropySource ε] {handle : MemoryEngine} {save : MemoryEngine.Save μ}
  {plan : Plan}

/-- Before a call the handle has kept to the calls before, and its store holds what they wrote. -/
structure Filling (handle : MemoryEngine) (plan : Plan) (values : MixedValues) (place : Nat)
    (state : MemoryEngine × μ) : Prop where
  working : Working handle plan values place state.1
  inserted : values.Inserted plan handle.store place state.1.store

theorem handsOn_filling {values : MixedValues} (items : 0 < plan.items) :
    HandsOn (MemoryEngine.answering save) (mixedCall plan values) (Filling handle plan values) := by
  rintro place ⟨met, left⟩ ⟨working, inserted⟩
  refine ⟨working.call, ?_⟩
  rw [MemoryEngine.answering_handle working.opened (mixedCall_ne_close plan values place)]
  exact inserted.applied items

/-- No call is refused, so all are made. -/
theorem ends_measure_mixed_on_handle (opened : handle.closed = false) (items : 0 < plan.items)
    (size : 0 < plan.valueSize) (generator : Generator ε)
    (saved : handle.syncWrites = true → ∀ store medium, (save store medium).1 = .ok ())
    (medium : μ) (clock : Nat → Nat) (iterations : Nat) :
    let values := (MixedValues.draw plan generator).value
    ∃ made later left elapsed,
      Probing.Ends (MemoryEngine.answering save) clock (measure (.mixed plan) iterations) generator
        ((handle, medium), 0) made
        (.ok ⟨iterations, elapsed, wrapped (iterations * plan.valueSize)⟩) later left ∧
      made.length = plan.items + iterations ∧
      Follows (Filling handle plan values) (mixedCall plan values) 0 made left.1 := by
  intro values
  have filled : ¬(values.first = [] ∧ values.second = []) := by
    rintro ⟨first, _⟩
    have length := MixedValues.length_first plan generator
    rw [first, List.length_nil] at length
    omega
  have start : Filling handle plan values 0 (handle, medium) :=
    ⟨⟨opened, rfl, MixedValues.held_zero plan values handle.store⟩,
      MixedValues.inserted_zero plan values handle.store⟩
  obtain ⟨made, outcome, later, left, elapsed, ends, follows, ending⟩ :=
    ends_measure_mixed items rfl filled (handsOn_filling items) clock iterations (handle, medium) 0
      start
  rcases ending with ⟨rfl, full⟩ | ⟨stop, refused, _⟩
  · exact ⟨made, later, left, elapsed, ends, full, follows⟩
  · -- Gets find the keys of the plan, and nothing else could be refused.
    apply absurd refused
    apply follows.not_refused
    exact fun place state filling => filling.working.ne_error items saved

/-- **A mixed workload on an open handle makes all its calls.** Gets, puts and tests find the key
of the plan whose turn it is, and insertions find their key absent. What was last written under
these keys is in the store in the end, and nothing else has changed. -/
theorem measure_mixed_on_handle (opened : handle.closed = false) (items : 0 < plan.items)
    (size : 0 < plan.valueSize) (generator : Generator ε)
    (saved : handle.syncWrites = true → ∀ store medium, (save store medium).1 = .ok ())
    (unused : ∀ rest, handle.store.get? (Bytes.ofText "new-" ++ rest) = none)
    (medium : μ) (clock : Nat → Nat) (iterations : Nat) :
    let values := (MixedValues.draw plan generator).value
    let calls := callsOn handle save medium clock generator (.mixed plan) iterations
    let ended := ((measure (.mixed plan) iterations).script generator).run
      (Probe.answer (MemoryEngine.answering save) clock) ((handle, medium), 0)
    let final := ended.2.1.1.store
    (∃ elapsed, ended.1.1 = .ok ⟨iterations, elapsed, wrapped (iterations * plan.valueSize)⟩) ∧
    calls.length = plan.items + iterations ∧
    (∀ iteration < iterations, ∃ met left,
      calls[plan.items + iteration]? = some ((met, left), mixedRequest plan values iteration) ∧
      if plan.mix.operation iteration = .insert then
        (mixedRequest plan values iteration).key? = some (Key.insertion iteration) ∧
          met.store.get? (Key.insertion iteration) = none
      else (mixedRequest plan values iteration).key? = some (mixedKey plan iteration) ∧
        met.store.get? (mixedKey plan iteration) =
          some (values.heldValue plan (iteration % plan.items) iteration)) ∧
    (∀ index < plan.items, final.get? (Key.sequential "mixed-" index) =
      some (values.heldValue plan index iterations)) ∧
    (∀ iteration < iterations, plan.mix.operation iteration = .insert →
      final.get? (Key.insertion iteration) = some (values.fresh plan iteration)) ∧
    ∀ key, (∀ index < plan.items, key ≠ Key.sequential "mixed-" index) →
      (∀ iteration < iterations, plan.mix.operation iteration = .insert →
        key ≠ Key.insertion iteration) →
      final.get? key = handle.store.get? key := by
  intro values calls ended final
  obtain ⟨made, later, left, elapsed, ends, full, follows⟩ :=
    ends_measure_mixed_on_handle opened items size generator saved medium clock iterations
  have all : calls = made := ends.calls
  have last : ended =
      ((.ok ⟨iterations, elapsed, wrapped (iterations * plan.valueSize)⟩, later), left) :=
    ends.run
  have store : final = left.1.1.store := congrArg (fun ended => ended.2.1.1.store) last
  obtain ⟨working, inserted⟩ : Filling handle plan values (plan.items + iterations) left.1 := by
    rw [← full, ← Nat.zero_add made.length]
    exact follows.left
  rw [store]
  refine ⟨⟨elapsed, by rw [last]⟩, all ▸ full, ?_, ?_, ?_, ?_⟩
  · intro iteration early
    obtain ⟨⟨⟨met, left⟩, request⟩, found⟩ : ∃ call, made[plan.items + iteration]? = some call :=
      ⟨_, List.getElem?_eq_getElem (by omega)⟩
    obtain ⟨⟨working, inserted⟩, called⟩ := follows.each found
    rw [Nat.zero_add] at working inserted called
    rw [mixedCall_add_items] at called
    refine ⟨met, left, by rw [all, found, called], ?_⟩
    split
    · rename_i inserts
      exact ⟨key?_mixedRequest_insert inserts, inserted.get?_insertion (unused _)⟩
    · rename_i other
      have bound := Nat.mod_lt iteration items
      have held := working.held (iteration % plan.items) bound (by omega)
      rw [Nat.add_sub_cancel_left] at held
      exact ⟨key?_mixedRequest other, held⟩
  · intro index bound
    have held := working.held index bound (by omega)
    rwa [Nat.add_sub_cancel_left] at held
  · intro iteration early
    exact inserted.inserted iteration (by omega)
  · intro key outside others
    exact inserted.kept key outside fun iteration early => others iteration (by omega)

/-- Six iterations over two items, one of which was in the store before. -/
theorem measure_mixed_on_handle_two_items :
    let handle : MemoryEngine :=
      ⟨"db", true, Store.empty.insert (Key.sequential "mixed-" 0) [1], false⟩
    let save : MemoryEngine.Save Unit := fun _ medium => (.ok (), medium)
    let plan : Plan := { name := "m", keySize := 1, valueSize := 1, items := 2, mix := .mixed }
    let generator : Generator Source :=
      { source := .planned #[.pattern #[0], .pattern #[1], .pattern #[2]] 0, seed := defaultSeed }
    let ended := ((measure (.mixed plan) 6).script generator).run
      (Probe.answer (MemoryEngine.answering save) id) ((handle, ()), 0)
    (handle.closed = false ∧ 0 < plan.items ∧ 0 < plan.valueSize ∧
      (handle.syncWrites = true → ∀ store medium, (save store medium).1 = .ok ()) ∧
      ∀ rest, handle.store.get? (Bytes.ofText "new-" ++ rest) = none) ∧
    (∃ elapsed, ended.1.1 = .ok ⟨6, elapsed, 6⟩) ∧
    ended.2.1.1.store.get? (Key.sequential "mixed-" 0) = some [97] ∧
    ended.2.1.1.store.get? (Key.sequential "mixed-" 1) = some [99] ∧
    ended.2.1.1.store.get? (Key.insertion 3) = some [98] := by
  intro handle save plan generator ended
  have items : 0 < plan.items := by decide
  have size : 0 < plan.valueSize := by decide
  have saved : handle.syncWrites = true → ∀ store medium, (save store medium).1 = .ok () := by
    intro _ store medium
    rfl
  have unused (rest : Bytes) : handle.store.get? (Bytes.ofText "new-" ++ rest) = none := by
    have insertions : Bytes.ofText "new-" = [110, 101, 119, 45] := by decide
    have held : Key.sequential "mixed-" 0 = 109 :: (Key.sequential "mixed-" 0).tail := by decide
    rw [insertions, Store.get?_insert, held, if_neg (by simp), Store.get?_empty]
  have opened : handle.closed = false := rfl
  obtain ⟨fine, _, _, held, inserted, _⟩ :=
    measure_mixed_on_handle opened items size generator saved unused () id 6
  refine ⟨⟨opened, items, size, saved, unused⟩, fine, ?_, ?_, ?_⟩
  · rw [held 0 (by decide)]
    decide +kernel
  · rw [held 1 (by decide)]
    decide +kernel
  · rw [inserted 3 (by decide) (by decide)]
    decide +kernel

end Workload

end StoreTrial
