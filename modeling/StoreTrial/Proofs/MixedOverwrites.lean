import Mathlib.Data.Nat.Factorization.Basic
import Mathlib.Data.Nat.ModEq
import StoreTrial.Entropy.Source
import StoreTrial.Proofs.MixedCalls

/-! # Overwrites of a mixed workload

Which value a key holds when a mixed workload overwrites it. The overwrites take two values in
turn, one for every other cycle of the mix, while the keys come round with the items of the
plan. So it depends on the number of items whether a key is put with the value that it was put
with before (`StoreTrial.Workload.overwrite_idle_iff`).
-/

namespace StoreTrial

namespace Mix

variable {mix : Mix} {left right : Nat}

theorem nodup_cycle (mix : Mix) : mix.cycle.Nodup := by
  cases mix <;> decide

/-- No operation stands twice in a cycle, so it comes back after whole cycles only. -/
theorem operation_eq_iff :
    mix.operation left = mix.operation right ↔ left ≡ right [MOD mix.cycle.length] :=
  mix.nodup_cycle.getElem_inj_iff

theorem exists_length_cycle_eq_two_pow (mix : Mix) :
    ∃ exponent, mix.cycle.length = 2 ^ exponent := by
  cases mix with
  | putOnly | readOnly => exact ⟨0, rfl⟩
  | mixed => exact ⟨2, rfl⟩

theorem operation_ne_delete (iteration : Nat) : mix.operation iteration ≠ .delete := by
  intro deletes
  have member : Operation.delete ∈ mix.cycle := by
    rw [← deletes]
    exact List.getElem_mem _
  revert member
  cases mix <;> decide

end Mix

namespace Plan

variable {plan : Plan} {iteration : Nat}

/-- The number of iterations after which an item meets the same operation again. -/
def period (plan : Plan) : Nat := plan.items.lcm plan.mix.cycle.length

theorem period_pos (items : 0 < plan.items) : 0 < plan.period :=
  Nat.lcm_pos items plan.mix.length_cycle_pos

/-- Filling up a number to a multiple of a power of two adds no factor of two beyond it. -/
theorem two_pow_succ_dvd_lcm_iff {number : Nat} (positive : 0 < number) (exponent : Nat) :
    2 ^ (exponent + 1) ∣ number.lcm (2 ^ exponent) ↔ 2 ^ (exponent + 1) ∣ number := by
  constructor
  · intro divides
    obtain ⟨twos, rest, odd, rfl⟩ := Nat.exists_eq_two_pow_mul_odd (Nat.ne_of_gt positive)
    by_cases many : exponent < twos
    · exact Nat.dvd_mul_right_of_dvd (Nat.pow_dvd_pow 2 many) rest
    · have bound : (2 ^ twos * rest).lcm (2 ^ exponent) ∣ 2 ^ exponent * rest := by
        apply Nat.lcm_dvd
        · exact Nat.mul_dvd_mul_right (Nat.pow_dvd_pow 2 (by omega)) rest
        · exact Nat.dvd_mul_right _ _
      have even : 2 ∣ rest := by
        apply Nat.dvd_of_mul_dvd_mul_left (Nat.two_pow_pos exponent)
        exact divides.trans bound
      exact absurd (even_iff_two_dvd.mpr even) (Nat.not_even_iff_odd.mpr odd)
  · intro divides
    exact divides.trans (Nat.dvd_lcm_left _ _)

theorem two_mul_length_cycle_dvd_period_iff (items : 0 < plan.items) :
    2 * plan.mix.cycle.length ∣ plan.period ↔ 2 * plan.mix.cycle.length ∣ plan.items := by
  obtain ⟨exponent, length⟩ := plan.mix.exists_length_cycle_eq_two_pow
  rw [period, length, ← Nat.pow_succ']
  exact two_pow_succ_dvd_lcm_iff items exponent

/-- Two iterations that put the same item are whole periods apart. -/
theorem puts_iff_dvd (puts : plan.mix.operation iteration = .put) {earlier : Nat}
    (before : earlier ≤ iteration) :
    plan.mix.operation earlier = .put ∧ earlier % plan.items = iteration % plan.items ↔
      plan.period ∣ iteration - earlier := by
  rw [← puts, Mix.operation_eq_iff, period, Nat.lcm_dvd_iff, and_comm, ← Nat.ModEq,
    Nat.modEq_iff_dvd' before, Nat.modEq_iff_dvd' before]

end Plan

namespace MixedValues

variable {plan : Plan} {values : MixedValues} {index iteration : Nat}

/-- The value that a key has when the iterations before a given one have been made. -/
def heldValue (plan : Plan) (values : MixedValues) (index : Nat) : (iteration : Nat) → Bytes
  | 0 => values.populated
  | iteration + 1 =>
      if plan.mix.operation iteration = .put ∧ iteration % plan.items = index then
        values.fresh plan iteration
      else heldValue plan values index iteration

/-- Iterations that do not put a key leave its value. -/
theorem heldValue_add {count : Nat}
    (others : ∀ later < count,
      ¬(plan.mix.operation (iteration + later) = .put ∧ (iteration + later) % plan.items = index)) :
    heldValue plan values index (iteration + count) = heldValue plan values index iteration := by
  induction count with
  | zero => rfl
  | succ count ih =>
      rw [← Nat.add_assoc, heldValue, if_neg (others count (Nat.lt_succ_self count))]
      exact ih fun later bound => others later (by omega)

theorem fresh_eq_fresh_iff (apart : values.first ≠ values.second) {other : Nat} :
    values.fresh plan other = values.fresh plan iteration ↔
      other / plan.mix.cycle.length % 2 = iteration / plan.mix.cycle.length % 2 := by
  rw [fresh, fresh]
  rcases Nat.mod_two_eq_zero_or_one (other / plan.mix.cycle.length) with even | odd
  · rcases Nat.mod_two_eq_zero_or_one (iteration / plan.mix.cycle.length) with even' | odd'
    · simp [even, even']
    · simp [even, odd', apart]
  · rcases Nat.mod_two_eq_zero_or_one (iteration / plan.mix.cycle.length) with even' | odd'
    · simp [odd, even', apart.symm]
    · simp [odd, odd']

/-- Two iterations overwrite with one value if they are an even number of cycles apart. -/
theorem fresh_sub_eq_iff (apart : values.first ≠ values.second) {distance : Nat}
    (whole : plan.mix.cycle.length ∣ distance) (early : distance ≤ iteration) :
    values.fresh plan (iteration - distance) = values.fresh plan iteration ↔
      2 * plan.mix.cycle.length ∣ distance := by
  obtain ⟨cycles, rfl⟩ := whole
  have positive := plan.mix.length_cycle_pos
  have within : cycles ≤ iteration / plan.mix.cycle.length := by
    rw [Nat.le_div_iff_mul_le positive, Nat.mul_comm]
    exact early
  rw [fresh_eq_fresh_iff apart, Nat.sub_mul_div, Nat.mul_comm 2, Nat.mul_dvd_mul_iff_left positive]
  omega

/-- What a key holds when an iteration puts it was put one period before, or else while
populating. -/
theorem heldValue_of_put (items : 0 < plan.items) (puts : plan.mix.operation iteration = .put) :
    heldValue plan values (iteration % plan.items) iteration =
      if plan.period ≤ iteration then values.fresh plan (iteration - plan.period)
      else values.populated := by
  have positive := plan.period_pos items
  have kept (start : Nat) (before : start ≤ iteration) (near : iteration - start < plan.period) :
      heldValue plan values (iteration % plan.items) iteration =
        heldValue plan values (iteration % plan.items) start := by
    obtain ⟨count, rfl⟩ := Nat.exists_eq_add_of_le before
    apply heldValue_add
    intro later bound
    rw [Plan.puts_iff_dvd puts (by omega)]
    exact Nat.not_dvd_of_pos_of_lt (by omega) (by omega)
  by_cases gone : plan.period ≤ iteration
  · have again : plan.period ∣ iteration - (iteration - plan.period) := by
      rw [Nat.sub_sub_self gone]
    rw [if_pos gone, kept (iteration - plan.period + 1) (by omega) (by omega), heldValue,
      if_pos ((Plan.puts_iff_dvd puts (Nat.sub_le _ _)).mpr again)]
  · rw [if_neg gone, kept 0 (Nat.zero_le _) (by omega), heldValue]

/-- The three values are different. -/
def Different (values : MixedValues) : Prop :=
  [values.populated, values.first, values.second].Nodup

instance (values : MixedValues) : Decidable values.Different :=
  inferInstanceAs (Decidable (List.Nodup _))

theorem Different.first_ne_second (different : values.Different) :
    values.first ≠ values.second := by
  simp [Different] at different
  exact different.2

theorem Different.populated_ne_fresh (different : values.Different) :
    values.populated ≠ values.fresh plan iteration := by
  simp [Different] at different
  rw [fresh]
  split
  · exact different.1.1
  · exact different.1.2

/-- A put changes nothing in a later round over the items, if two cycles divide them. -/
theorem heldValue_eq_fresh_iff (items : 0 < plan.items)
    (puts : plan.mix.operation iteration = .put) (different : values.Different) :
    heldValue plan values (iteration % plan.items) iteration = values.fresh plan iteration ↔
      plan.items ≤ iteration ∧ 2 * plan.mix.cycle.length ∣ plan.items := by
  have around : plan.items ≤ plan.period :=
    Nat.le_of_dvd (plan.period_pos items) (Nat.dvd_lcm_left _ _)
  rw [heldValue_of_put items puts, ← plan.two_mul_length_cycle_dvd_period_iff items]
  by_cases gone : plan.period ≤ iteration
  · have whole : plan.mix.cycle.length ∣ plan.period := Nat.dvd_lcm_right _ _
    rw [if_pos gone, fresh_sub_eq_iff different.first_ne_second whole gone]
    constructor
    · intro divides
      exact ⟨around.trans gone, divides⟩
    · exact And.right
  · rw [if_neg gone]
    constructor
    · intro same
      exact absurd same different.populated_ne_fresh
    · rintro ⟨late, divides⟩
      -- The items are then whole cycles, and so a period themselves.
      have whole := (plan.two_mul_length_cycle_dvd_period_iff items).mp divides
      have short : plan.period ∣ plan.items :=
        Nat.lcm_dvd (Nat.dvd_refl _) ((Nat.dvd_mul_left _ _).trans whole)
      exact absurd ((Nat.le_of_dvd items short).trans late) gone

/-- Before a call the items that have been populated hold what the iterations have left. -/
def Held (plan : Plan) (values : MixedValues) (place : Nat) (store : Store) : Prop :=
  ∀ index < plan.items, index < place →
    store.get? (Key.sequential "mixed-" index) =
      some (heldValue plan values index (place - plan.items))

theorem held_zero (plan : Plan) (values : MixedValues) (store : Store) :
    Held plan values 0 store := by
  intro index _ early
  exact absurd early (Nat.not_lt_zero index)

theorem sequential_ne_insertion (index iteration : Nat) :
    Key.sequential "mixed-" index ≠ Key.insertion iteration := by
  have items : Bytes.ofText "mixed-" = [109, 105, 120, 101, 100, 45] := by decide
  have insertions : Bytes.ofText "new-" = [110, 101, 119, 45] := by decide
  simp [Key.sequential, Key.insertion, items, insertions]

theorem get?_insert_sequential (store : Store) (stem : String) (value : Bytes)
    (index sought : Nat) :
    (store.insert (Key.sequential stem index) value).get? (Key.sequential stem sought) =
      if sought = index then some value else store.get? (Key.sequential stem sought) := by
  simp only [Store.get?_insert, Key.sequential_inj]

theorem Held.applied {place : Nat} {store : Store} (held : Held plan values place store) :
    Held plan values (place + 1) ((Workload.mixedCall plan values place).applied store) := by
  intro index bound early
  by_cases populating : place < plan.items
  · have start : place + 1 - plan.items = 0 := by omega
    have unwritten : place - plan.items = 0 := by omega
    rw [Workload.mixedCall_of_lt populating, Request.applied, get?_insert_sequential, start]
    by_cases own : index = place
    · rw [if_pos own]
      rfl
    · rw [if_neg own, held index bound (by omega), unwritten]
  · obtain ⟨iteration, rfl⟩ := Nat.exists_eq_add_of_le (Nat.le_of_not_lt populating)
    have before := held index bound (by omega)
    rw [Nat.add_sub_cancel_left] at before
    rw [Workload.mixedCall_add_items, Nat.add_assoc, Nat.add_sub_cancel_left, heldValue,
      Workload.mixedRequest]
    cases operation : plan.mix.operation iteration with
    | get => simpa [Request.applied] using before
    | contains => simpa [Request.applied] using before
    | delete => exact absurd operation (Mix.operation_ne_delete iteration)
    | put =>
        simp only [Request.applied]
        rw [Workload.mixedKey, get?_insert_sequential, before]
        by_cases own : index = iteration % plan.items
        · simp [own]
        · simp [own, Ne.symm own]
    | insert =>
        simp only [Request.applied]
        rw [Store.get?_insert, if_neg (sequential_ne_insertion index iteration), before]
        simp

end MixedValues

namespace Workload

variable {μ ε : Type} [EntropySource ε]

/-- The calls that measuring a workload makes on a handle, each with the handle and the medium
that it meets. -/
def callsOn (handle : MemoryEngine) (save : MemoryEngine.Save μ) (medium : μ)
    (clock : Nat → Nat) (generator : Generator ε) (workload : Workload) (iterations : Nat) :
    List ((MemoryEngine × μ) × Request) :=
  ((measure workload iterations).script generator).calls (MemoryEngine.answering save) clock
    ((handle, medium), 0)

theorem mixedCall_ne_close (plan : Plan) (values : MixedValues) (place : Nat) :
    mixedCall plan values place ≠ .close := by
  rw [mixedCall]
  split
  · simp
  · rw [mixedRequest]
    split <;> simp

variable {handle : MemoryEngine} {save : MemoryEngine.Save μ} {medium : μ} {plan : Plan}
  {values : MixedValues}

/-- A handle before the call at a place, after it was first met as `handle`. -/
structure Working (handle : MemoryEngine) (plan : Plan) (values : MixedValues) (place : Nat)
    (met : MemoryEngine) : Prop where
  opened : met.closed = false
  mode : met.syncWrites = handle.syncWrites
  held : values.Held plan place met.store

theorem Working.call {place : Nat} {met : MemoryEngine}
    (working : Working handle plan values place met) :
    Working handle plan values (place + 1)
      (MemoryEngine.answering save (mixedCall plan values place) (met, medium)).2.1 := by
  rw [MemoryEngine.answering_handle working.opened (mixedCall_ne_close plan values place)]
  exact ⟨working.opened, working.mode, working.held.applied⟩

/-- No call is refused, if changes can be saved: every key that is read has been populated. -/
theorem Working.ne_error {place : Nat} {met : MemoryEngine} (items : 0 < plan.items)
    (saved : handle.syncWrites = true → ∀ store medium, (save store medium).1 = .ok ())
    (working : Working handle plan values place met) (stop : Stop) :
    (MemoryEngine.answering save (mixedCall plan values place) (met, medium)).1 ≠ .error stop := by
  apply MemoryEngine.answering_ne_error working.opened (mixedCall_ne_close plan values place)
  · rw [working.mode]
    exact saved
  · intro key asked
    have late : plan.items ≤ place := by
      by_contra early
      rw [mixedCall_of_lt (by omega)] at asked
      cases asked
    obtain ⟨iteration, rfl⟩ := Nat.exists_eq_add_of_le late
    have bound := Nat.mod_lt iteration items
    have present := working.held (iteration % plan.items) bound (by omega)
    rw [mixedCall_add_items, mixedRequest] at asked
    split at asked
    · cases asked
      rw [mixedKey, present]
      simp
    all_goals cases asked

/-- **An overwrite of a mixed workload puts what the key holds already exactly in the rounds
after the first one over the items, if two cycles of the mix divide the number of items.** All
calls are made if changes can be saved. -/
theorem overwrite_idle_iff (opened : handle.closed = false) (items : 0 < plan.items)
    (generator : Generator ε) (drawn : (MixedValues.draw plan generator).value = values)
    (different : values.Different) (save : MemoryEngine.Save μ) (medium : μ)
    (clock : Nat → Nat) (iterations : Nat) :
    let calls := callsOn handle save medium clock generator (.mixed plan) iterations
    (∀ iteration met left request,
      calls[plan.items + iteration]? = some ((met, left), request) →
      plan.mix.operation iteration = .put →
      request = .put (mixedKey plan iteration) (values.fresh plan iteration) ∧
      (met.store.get? (mixedKey plan iteration) = some (values.fresh plan iteration) ↔
        plan.items ≤ iteration ∧ 2 * plan.mix.cycle.length ∣ plan.items)) ∧
    ((handle.syncWrites = true → ∀ store medium, (save store medium).1 = .ok ()) →
      calls.length = plan.items + iterations) := by
  have filled : ¬(values.first = [] ∧ values.second = []) := by
    rintro ⟨first, second⟩
    exact different.first_ne_second (first.trans second.symm)
  have start : Working handle plan values 0 (handle, medium).1 :=
    ⟨opened, rfl, MixedValues.held_zero plan values handle.store⟩
  have kept : HandsOn (MemoryEngine.answering save) (mixedCall plan values) fun place state =>
      Working handle plan values place state.1 := fun _ _ working => working.call
  obtain ⟨made, outcome, later, left, elapsed, ends, follows, ending⟩ :=
    ends_measure_mixed items drawn filled kept clock iterations (handle, medium) 0 start
  intro calls
  have all : calls = made := ends.calls
  rw [all]
  constructor
  · intro iteration met left request found puts
    obtain ⟨working, called⟩ := follows.each found
    rw [Nat.zero_add] at working called
    have bound := Nat.mod_lt iteration items
    have held := working.held (iteration % plan.items) bound (by omega)
    rw [Nat.add_sub_cancel_left] at held
    rw [mixedCall_add_items, mixedRequest, puts] at called
    refine ⟨called, ?_⟩
    rw [mixedKey, held, Option.some_inj]
    exact MixedValues.heldValue_eq_fresh_iff items puts different
  · intro saved
    rcases ending with ⟨_, full⟩ | ⟨stop, refused, _⟩
    · exact full
    · have answers (place : Nat) (state : MemoryEngine × μ)
          (working : Working handle plan values place state.1) (stop : Stop) :
          (MemoryEngine.answering save (mixedCall plan values place) state).1 ≠ .error stop :=
        working.ne_error items saved stop
      exact absurd refused (follows.not_refused answers stop)

/-- The plan for reads and writes side by side has a thousand items, and its second round puts
the values of the first. -/
theorem overwrite_idle_iff_thousand_items :
    let handle : MemoryEngine := ⟨"db", false, Store.empty, false⟩
    let generator : Generator Source :=
      { source := .planned #[.pattern #[0], .pattern #[1], .pattern #[2]] 0, seed := defaultSeed }
    let values : MixedValues :=
      ⟨List.replicate 100 97, List.replicate 100 98, List.replicate 100 99⟩
    let calls := callsOn handle handle.save Disk.empty id generator (.mixed Plan.mixed) 1002
    (handle.closed = false ∧ 0 < Plan.mixed.items ∧
      (MixedValues.draw Plan.mixed generator).value = values ∧ values.Different) ∧
    ∃ met left, calls[Plan.mixed.items + 1001]? =
        some ((met, left), .put (Key.sequential "mixed-" 1) values.first) ∧
      met.store.get? (Key.sequential "mixed-" 1) = some values.first := by
  intro handle generator values calls
  have opened : handle.closed = false := rfl
  have items : 0 < Plan.mixed.items := by decide
  have drawn : (MixedValues.draw Plan.mixed generator).value = values := by decide +kernel
  have different : values.Different := by decide +kernel
  obtain ⟨puts, full⟩ := overwrite_idle_iff opened items generator drawn different handle.save
    Disk.empty id 1002
  have length : calls.length = Plan.mixed.items + 1002 := full (by simp [handle])
  obtain ⟨⟨⟨met, left⟩, request⟩, found⟩ : ∃ call, calls[Plan.mixed.items + 1001]? = some call :=
    ⟨_, List.getElem?_eq_getElem (by omega)⟩
  obtain ⟨asked, held⟩ := puts 1001 met left request found (by decide)
  have key : mixedKey Plan.mixed 1001 = Key.sequential "mixed-" 1 := by decide
  have fresh : values.fresh Plan.mixed 1001 = values.first := by decide
  rw [key, fresh] at asked held
  refine ⟨⟨opened, items, drawn, different⟩, met, left, ?_, ?_⟩
  · rw [found, asked]
  · exact held.mpr (by decide)

/-- Overwrites need not change what a key holds: on a new engine with eight items, the first put
of the second round finds the value that it puts. -/
theorem overwrite_idle_in_second_round :
    let plan : Plan := { name := "m", keySize := 1, valueSize := 1, items := 8, mix := .mixed }
    let generator : Generator Source :=
      { source := .planned #[.pattern #[0], .pattern #[1], .pattern #[2]] 0, seed := defaultSeed }
    let handle : MemoryEngine := ⟨"db", false, Store.empty, false⟩
    let disk := (Disk.empty.makeDirectories (.ofText "db")).2
    let calls := callsOn handle handle.save disk id generator (.mixed plan) 10
    MemoryEngine.openAt "db" ⟨"db", false, true⟩ Disk.empty = (.ok handle, disk) ∧
      (MixedValues.draw plan generator).value = ⟨[97], [98], [99]⟩ ∧
      plan.mix.operation 9 = .put ∧
      calls[plan.items + 9]?.map (fun (state, request) =>
        (state.1.store.get? (Key.sequential "mixed-" 1), request)) =
          some (some [98], .put (Key.sequential "mixed-" 1) [98]) := by
  decide +kernel

end Workload

end StoreTrial
