import StoreTrial.Proofs.MovedPayload

/-! # Payload figures

The figure that is measured is one number for each iteration of a case, in a word of 64 bits. For a
case other than a mix every turn moves as much, so the figure is what the loop has moved as far as
the word holds it (`StoreTrial.Workload.bytes_eq_wrapped_payloadBytes`). The turns of a mix that
test for a key move nothing and are counted all the same, so its figure is wrong as soon as one has
been made (`StoreTrial.Workload.bytes_mixed_eq_iff`).
-/

namespace StoreTrial

/-- The bytes of the key that a call writes. -/
def Request.keyBytes : Request → Nat
  | .put key _ => key.length
  | .get _ | .delete _ | .contains _ | .close => 0

namespace Mix

variable {mix : Mix}

/-- Only the third operation of the cycle of four is a test. -/
theorem operation_eq_contains_iff {iteration : Nat} :
    mix.operation iteration = .contains ↔ mix = .mixed ∧ iteration % 4 = 2 := by
  have listed : mix.operation iteration ∈ mix.cycle := List.getElem_mem _
  cases mix with
  | putOnly | readOnly =>
      rw [List.mem_singleton.mp listed]
      simp
  | mixed =>
      have third : mixed.operation 2 = .contains := rfl
      rw [← third, operation_eq_iff]
      simp [Nat.ModEq, cycle]

/-- One test is made in each cycle of four, when it comes to the third operation. -/
theorem countP_contains (mix : Mix) (iterations : Nat) :
    (List.range iterations).countP (mix.operation · = .contains) =
      if mix = .mixed then (iterations + 1) / 4 else 0 := by
  induction iterations with
  | zero => simp
  | succ iterations ih =>
      rw [List.range_succ, List.countP_append, ih, List.countP_singleton]
      simp only [decide_eq_true_eq, operation_eq_contains_iff]
      by_cases mixes : mix = .mixed
      · simp only [mixes, true_and, if_true]
        split <;> omega
      · simp [mixes]

/-- A mix that makes no tests has no cycle of four, or has not come to the third operation. -/
theorem countP_contains_eq_zero_iff {iterations : Nat} :
    (List.range iterations).countP (mix.operation · = .contains) = 0 ↔
      mix ≠ .mixed ∨ iterations ≤ 2 := by
  rw [countP_contains]
  by_cases mixes : mix = .mixed
  · rw [if_pos mixes]
    simp only [mixes, ne_eq, not_true_eq_false, false_or]
    omega
  · simp [mixes]

/-- No more tests are made than other operations. -/
theorem two_mul_countP_contains_le (mix : Mix) (iterations : Nat) :
    2 * (List.range iterations).countP (mix.operation · = .contains) ≤ iterations := by
  rw [countP_contains]
  split <;> omega

end Mix

namespace Workload

/-- The payload that the calls of a case move: their values and, where the items of a plan are
put, also the keys. -/
def payloadBytes {σ : Type} (engine : Engine σ) (calls : List (σ × Request)) : Workload → Nat
  | putOnly _ => engine.valueBytes calls + (calls.map fun call => call.2.keyBytes).sum
  | single _ _ | batch _ _ | randomGet _ _ | mixed _ => engine.valueBytes calls

/-- How many values each turn of a case other than a mix moves. -/
def valuesPerTurn : Workload → Nat
  | single .put _ | single .insert _ | single .get _ | randomGet _ _ | putOnly _ => 1
  | batch size _ => size
  | single .contains _ | single .delete _ | mixed _ => 0

/-- How many bytes of keys count in each turn of a case. -/
def keyBytesPerTurn : Workload → Nat
  | putOnly plan => plan.keySize
  | single _ _ | batch _ _ | randomGet _ _ | mixed _ => 0

variable {ε : Type} [EntropySource ε] {workload : Workload} {plan : Plan} {iterations : Nat}
  {generator : Generator ε}

/-- What turns of the same weight weigh together. -/
theorem sum_turns {weight : Request → Nat} {turn : Nat → List Request} {amount : Nat}
    (each : ∀ iteration, ((turn iteration).map weight).sum = amount) (iterations : Nat) :
    (((List.range iterations).flatMap turn).map weight).sum = iterations * amount := by
  induction iterations with
  | zero => simp
  | succ iterations ih =>
      rw [List.range_succ, List.flatMap_append, List.map_append, List.sum_append, ih,
        List.flatMap_singleton, each, Nat.succ_mul]

theorem sum_values_puts (entries : List (Bytes × Bytes)) :
    ((Request.puts entries).map Request.values).sum = entries.length := by
  induction entries with
  | nil => rfl
  | cons entry rest ih =>
      change 1 + ((Request.puts rest).map Request.values).sum = rest.length + 1
      rw [ih, Nat.add_comm]

theorem items_ne_zero (fine : (putOnly plan).setback? = none) : plan.items ≠ 0 := by
  intro none
  simp [setback?, rejection?, none] at fine

/-- A turn of a case that only puts the items of a plan puts one of its keys. -/
theorem exists_turn_putOnly (items : 0 < plan.items) (iterations : Nat) (generator : Generator ε)
    (iteration : Nat) :
    ∃ key ∈ (Generator.uniqueKeys plan.items plan.keySize generator).value, ∃ value,
      ((putOnly plan).course iterations generator).value.turn iteration = [.put key value] := by
  let drawn := Generator.uniqueKeys plan.items plan.keySize generator
  let values := (Draw.replicate (Generator.value plan.valueSize) plan.items drawn.generator).value
  let entries := drawn.value.zip values
  have length : entries.length = plan.items :=
    length_zip (length_uniqueKeys _ _ _) (Draw.length_replicate _ _ _)
  have bound : iteration % plan.items < entries.length := by
    rw [length]
    exact Nat.mod_lt iteration items
  obtain ⟨listed, _⟩ := List.of_mem_zip (List.getElem_mem bound)
  refine ⟨_, listed, entries[iteration % plan.items].2, ?_⟩
  change Request.puts entries[iteration % plan.items]?.toList = _
  rw [List.getElem?_eq_getElem bound]
  rfl

/-- Each turn of a case other than a mix moves as many values. -/
theorem sum_values_turn (unmixed : ∀ plan, workload ≠ .mixed plan)
    (fine : workload.setback? = none) (iterations : Nat) (generator : Generator ε)
    (iteration : Nat) :
    (((workload.course iterations generator).value.turn iteration).map Request.values).sum =
      workload.valuesPerTurn := by
  cases workload with
  | single operation valueSize => cases operation <;> rfl
  | batch size valueSize =>
      change ((Request.puts _).map Request.values).sum = size
      rw [sum_values_puts, length_zip (Key.length_sequentialKeys _ _) (Draw.length_replicate _ _ _)]
  | randomGet population valueSize => rfl
  | mixed plan => exact absurd rfl (unmixed plan)
  | putOnly plan =>
      obtain ⟨key, _, value, turned⟩ := exists_turn_putOnly
        (Nat.pos_of_ne_zero (items_ne_zero fine)) iterations generator iteration
      rw [turned]
      rfl

/-- Each turn of a case that only puts the items of a plan writes a key of the size of the plan,
if there is room for the numbers that tell the keys apart. -/
theorem sum_keyBytes_turn (fine : (putOnly plan).setback? = none) (wide : 6 ≤ plan.keySize)
    (room : 3 * plan.items < 10 ^ plan.keySize) (iterations : Nat) (generator : Generator ε)
    (iteration : Nat) :
    ((((putOnly plan).course iterations generator).value.turn iteration).map
      Request.keyBytes).sum = plan.keySize := by
  obtain ⟨key, member, value, turned⟩ := exists_turn_putOnly
    (Nat.pos_of_ne_zero (items_ne_zero fine)) iterations generator iteration
  have payload : Alphabet.key.IsPayload plan.keySize key :=
    Generator.isPayload_freeKeys wide (by rwa [Nat.zero_add]) key member
  rw [turned]
  exact payload.full

/-- The payload of calls that make all turns of a case, when the keys that count have the size of
the plan. -/
theorem payloadBytes_eq {σ : Type} {engine : Engine σ} {calls : List (σ × Request)}
    (fine : workload.setback? = none)
    (room : ∀ plan, workload = .putOnly plan →
      6 ≤ plan.keySize ∧ 3 * plan.items < 10 ^ plan.keySize)
    (turned : calls.map Prod.snd =
      (List.range iterations).flatMap (workload.course iterations generator).value.turn) :
    workload.payloadBytes engine calls =
      engine.valueBytes calls + iterations * workload.keyBytesPerTurn := by
  cases workload with
  | putOnly plan =>
      obtain ⟨wide, roomy⟩ := room plan rfl
      have keys := sum_turns (sum_keyBytes_turn fine wide roomy iterations generator) iterations
      rw [← turned, List.map_map] at keys
      exact congrArg (engine.valueBytes calls + ·) keys
  | single _ _ | batch _ _ | randomGet _ _ | mixed _ => rfl

/-- A word tells of the iterations of a case other than a mix what their values and keys weigh. -/
theorem wrapped_bytesPerIteration (unmixed : ∀ plan, workload ≠ .mixed plan) (iterations : Nat) :
    wrapped (iterations * workload.bytesPerIteration) =
      wrapped (iterations *
        (workload.valueSize * workload.valuesPerTurn + workload.keyBytesPerTurn)) := by
  cases workload with
  | single operation size =>
      cases operation with
      | put | insert | get =>
          exact congrArg (fun amount => wrapped (iterations * amount)) (Nat.mul_one size).symm
      | contains | delete => rfl
  | batch count size =>
      change wrapped (iterations * wrapped (count * size)) = wrapped (iterations * (size * count))
      rw [wrapped_mul_wrapped, Nat.mul_comm count]
  | randomGet population size =>
      exact congrArg (fun amount => wrapped (iterations * amount)) (Nat.mul_one size).symm
  | mixed plan => exact absurd rfl (unmixed plan)
  | putOnly plan =>
      change wrapped (iterations * wrapped (plan.keySize + plan.valueSize)) =
        wrapped (iterations * (plan.valueSize * 1 + plan.keySize))
      rw [wrapped_mul_wrapped, Nat.mul_one, Nat.add_comm]

variable {μ : Type} {handle : MemoryEngine} {save : MemoryEngine.Save μ} {medium : μ}
  {clock : Nat → Nat} {measurement : Measurement}

/-- The measured loop of a case other than a mix has moved as much in each iteration. -/
theorem payloadBytes_of_measured (unmixed : ∀ plan, workload ≠ .mixed plan)
    (room : ∀ plan, workload = .putOnly plan →
      6 ≤ plan.keySize ∧ 3 * plan.items < 10 ^ plan.keySize)
    (measured : (endOn handle save medium clock generator workload iterations).1 =
      .ok measurement) :
    let moved := workload.payloadBytes (MemoryEngine.answering save)
      (loopCalls (MemoryEngine.answering save) clock workload iterations generator
        ((handle, medium), 0))
    moved = iterations *
        (workload.valueSize * workload.valuesPerTurn + workload.keyBytesPerTurn) ∧
      measurement.bytes = wrapped moved := by
  intro moved
  obtain ⟨fine, bytes, turned, made⟩ := valueBytes_of_measured measured
  rw [sum_turns (sum_values_turn unmixed fine iterations generator)] at made
  have whole : moved = iterations *
      (workload.valueSize * workload.valuesPerTurn + workload.keyBytesPerTurn) := by
    rw [Nat.mul_add, Nat.mul_left_comm, ← made]
    exact payloadBytes_eq fine room turned
  exact ⟨whole, by rw [bytes, wrapped_bytesPerIteration unmixed, whole]⟩

/-- **The figure of a case other than a mix is what a word tells of the payload that its measured
loop has moved**, so it is this payload exactly if a word holds it. Where the items of a plan are
put, their keys count as well, and there has to be room in them for the numbers that tell them
apart. -/
theorem bytes_eq_wrapped_payloadBytes (unmixed : ∀ plan, workload ≠ .mixed plan)
    (room : ∀ plan, workload = .putOnly plan →
      6 ≤ plan.keySize ∧ 3 * plan.items < 10 ^ plan.keySize)
    (measured : (endOn handle save medium clock generator workload iterations).1 =
      .ok measurement) :
    let moved := workload.payloadBytes (MemoryEngine.answering save)
      (loopCalls (MemoryEngine.answering save) clock workload iterations generator
        ((handle, medium), 0))
    measurement.bytes = wrapped moved ∧ (measurement.bytes = moved ↔ moved < UInt64.size) := by
  intro moved
  obtain ⟨_, figure⟩ := payloadBytes_of_measured unmixed room measured
  exact ⟨figure, by rw [figure, wrapped_eq_self_iff]⟩

/-- Keys that are drawn alike are told apart and keep their size, and two of them are put again
after the third. -/
theorem bytes_eq_wrapped_payloadBytes_told_apart :
    let handle : MemoryEngine := ⟨"db", true, Store.empty.insert [9] [7], false⟩
    let save : MemoryEngine.Save Unit := fun _ medium => (.ok (), medium)
    let plan : Plan := { name := "p", keySize := 6, valueSize := 2, items := 3 }
    let generator : Generator Source := { source := .unavailable, seed := defaultSeed }
    ((∀ other, putOnly plan ≠ .mixed other) ∧
      (∀ other, putOnly plan = .putOnly other →
        6 ≤ other.keySize ∧ 3 * other.items < 10 ^ other.keySize) ∧
      (endOn handle save () id generator (.putOnly plan) 5).1 = .ok ⟨5, 1, 40⟩) ∧
    (putOnly plan).payloadBytes (MemoryEngine.answering save)
      (loopCalls (MemoryEngine.answering save) id (.putOnly plan) 5 generator
        ((handle, ()), 0)) = 40 := by
  intro handle save plan generator
  have unmixed : ∀ other, putOnly plan ≠ .mixed other := nofun
  have room : ∀ other, putOnly plan = .putOnly other →
      6 ≤ other.keySize ∧ 3 * other.items < 10 ^ other.keySize := by
    rintro other ⟨⟩
    decide
  have measured : (endOn handle save () id generator (.putOnly plan) 5).1 = .ok ⟨5, 1, 40⟩ := by
    decide +kernel
  have held : (putOnly plan).payloadBytes (MemoryEngine.answering save)
      (loopCalls (MemoryEngine.answering save) id (.putOnly plan) 5 generator
        ((handle, ()), 0)) < UInt64.size := by
    decide +kernel
  have told := bytes_eq_wrapped_payloadBytes unmixed room measured
  exact ⟨⟨unmixed, room, measured⟩, (told.2.mpr held).symm⟩

/-- A word does not hold the payload of every measurement: on a new engine 2 ^ 63 iterations get a
value of two bytes each, and no byte is told. -/
theorem bytes_wrapped_after_many_gets :
    let generator : Generator Source := { source := .unavailable, seed := defaultSeed }
    let handle : MemoryEngine := ⟨"db", false, Store.empty, false⟩
    let disk := (Disk.empty.makeDirectories (.ofText "db")).2
    let engine := MemoryEngine.answering handle.save
    let gets := single .get 2
    MemoryEngine.openAt "db" ⟨"db", false, true⟩ Disk.empty = (.ok handle, disk) ∧
      (∃ elapsed, (endOn handle handle.save disk id generator gets (2 ^ 63)).1 =
        .ok ⟨2 ^ 63, elapsed, 0⟩) ∧
      gets.payloadBytes engine
        (loopCalls engine id gets (2 ^ 63) generator ((handle, disk), 0)) = 2 ^ 64 := by
  intro generator handle disk engine gets
  have unmixed : ∀ plan, gets ≠ .mixed plan := nofun
  have saved : handle.syncWrites = true → ∀ store medium, (handle.save store medium).1 = .ok () :=
    nofun
  have measured (iterations : Nat) : ∃ elapsed,
      (endOn handle handle.save disk id generator gets iterations).1 =
        .ok ⟨iterations, elapsed, wrapped (iterations * 2)⟩ := by
    obtain ⟨made, elapsed, later, after, ends, -⟩ :=
      ends_measure_on_handle unmixed rfl rfl saved generator disk id iterations
    exact ⟨elapsed, congrArg (fun ended => ended.1.1) ends.run⟩
  obtain ⟨elapsed, ending⟩ := measured (2 ^ 63)
  have full : wrapped (2 ^ 63 * 2) = 0 := by decide
  rw [full] at ending
  obtain ⟨moved, -⟩ := payloadBytes_of_measured unmixed nofun ending
  exact ⟨by decide +kernel, ⟨elapsed, ending⟩, moved⟩

theorem values_mixedRequest (plan : Plan) (values : MixedValues) (iteration : Nat) :
    (mixedRequest plan values iteration).values =
      if plan.mix.operation iteration = .contains then 0 else 1 := by
  rw [mixedRequest]
  cases operation : plan.mix.operation iteration with
  | delete => exact absurd operation (Mix.operation_ne_delete iteration)
  | get | put | contains | insert => rfl

/-- The turns of a mix move a value each, but for those that test for a key. -/
theorem sum_values_mixed (plan : Plan) (iterations : Nat) (generator : Generator ε) (count : Nat) :
    (((List.range count).flatMap ((mixed plan).course iterations generator).value.turn).map
        Request.values).sum +
      (List.range count).countP (plan.mix.operation · = .contains) = count := by
  induction count with
  | zero => rfl
  | succ count ih =>
      have last : ((((mixed plan).course iterations generator).value.turn count).map
          Request.values).sum = if plan.mix.operation count = .contains then 0 else 1 :=
        values_mixedRequest plan _ count
      rw [List.range_succ, List.flatMap_append, List.map_append, List.sum_append,
        List.countP_append, List.flatMap_singleton, last, List.countP_singleton]
      by_cases tests : plan.mix.operation count = .contains
      · rw [if_pos tests, if_pos (decide_eq_true tests)]
        omega
      · rw [if_neg tests, if_neg (by simpa using tests)]
        omega

/-- A figure that is too high, but at most twice what it should be, is only right if it is not too
high at all. -/
theorem wrapped_add_eq_iff {moved excess : Nat} (less : excess ≤ moved) :
    wrapped (moved + excess) = moved ↔ excess = 0 ∧ moved < UInt64.size := by
  rw [wrapped, UInt64.size]
  omega

/-- **The figure of a mix counts the size of a value for every test that was made.** It is what the
measured loop has moved exactly if the mix makes no tests, or the loop has ended before the first
one, and a word holds what was moved. -/
theorem bytes_mixed_eq_iff
    (measured : (endOn handle save medium clock generator (.mixed plan) iterations).1 =
      .ok measurement) :
    let engine := MemoryEngine.answering save
    let loop := loopCalls engine clock (.mixed plan) iterations generator ((handle, medium), 0)
    let tests := (List.range iterations).countP (plan.mix.operation · = .contains)
    measurement.bytes = wrapped (engine.valueBytes loop + plan.valueSize * tests) ∧
    (measurement.bytes = engine.valueBytes loop ↔
      (plan.mix ≠ .mixed ∨ iterations ≤ 2) ∧ engine.valueBytes loop < UInt64.size) := by
  intro engine loop tests
  obtain ⟨fine, bytes, _, moved⟩ := valueBytes_of_measured measured
  have valued : 0 < plan.valueSize := by
    apply Nat.pos_of_ne_zero
    intro none
    by_cases items : plan.items = 0 <;>
      simp [setback?, rejection?, lacksValues, items, none] at fine
  have counted := sum_values_mixed plan iterations generator iterations
  have made : engine.valueBytes loop = plan.valueSize * _ := moved
  have figure : measurement.bytes = wrapped (engine.valueBytes loop + plan.valueSize * tests) := by
    rw [made, bytes, ← Nat.mul_add, counted, bytesPerIteration, Nat.mul_comm]
  -- Tests are no more than the values that were moved, so a word that wraps does not hide them.
  have less : plan.valueSize * tests ≤ engine.valueBytes loop := by
    have rare : 2 * tests ≤ iterations := Mix.two_mul_countP_contains_le plan.mix iterations
    rw [made]
    exact Nat.mul_le_mul_left _ (by omega)
  refine ⟨figure, ?_⟩
  rw [figure, wrapped_add_eq_iff less, Nat.mul_eq_zero, Mix.countP_contains_eq_zero_iff]
  simp [Nat.ne_of_gt valued]

/-- In seven iterations over two items a mix makes two tests, on a handle that saves every
change. -/
theorem bytes_mixed_eq_iff_two_tests :
    let handle : MemoryEngine := ⟨"db", true, Store.empty.insert [9] [7], false⟩
    let save : MemoryEngine.Save Unit := fun _ medium => (.ok (), medium)
    let plan : Plan := { name := "m", keySize := 1, valueSize := 3, items := 2, mix := .mixed }
    let generator : Generator Source := { source := .unavailable, seed := defaultSeed }
    let engine := MemoryEngine.answering save
    (endOn handle save () id generator (.mixed plan) 7).1 = .ok ⟨7, 1, 21⟩ ∧
      engine.valueBytes (loopCalls engine id (.mixed plan) 7 generator ((handle, ()), 0)) = 15 := by
  intro handle save plan generator engine
  have measured : (endOn handle save () id generator (.mixed plan) 7).1 = .ok ⟨7, 1, 21⟩ := by
    decide +kernel
  have held : engine.valueBytes
      (loopCalls engine id (.mixed plan) 7 generator ((handle, ()), 0)) < UInt64.size := by
    decide +kernel
  have told := (bytes_mixed_eq_iff measured).1
  have tests : (List.range 7).countP (plan.mix.operation · = .contains) = 2 := by decide
  rw [tests] at told
  generalize engine.valueBytes _ = moved at told held ⊢
  refine ⟨measured, ?_⟩
  change 21 = wrapped (moved + 3 * 2) at told
  rw [wrapped, UInt64.size] at told
  rw [UInt64.size] at held
  omega

/-- The figure of a mix is not what it has moved: on a new engine three iterations get a value of
one byte, put one and test for a key, and three bytes are told. -/
theorem bytes_mixed_counts_test :
    let plan : Plan := { name := "m", keySize := 1, valueSize := 1, items := 1, mix := .mixed }
    let generator : Generator Source := { source := .unavailable, seed := defaultSeed }
    let handle : MemoryEngine := ⟨"db", false, Store.empty, false⟩
    let disk := (Disk.empty.makeDirectories (.ofText "db")).2
    let engine := MemoryEngine.answering handle.save
    let loop := loopCalls engine id (.mixed plan) 3 generator ((handle, disk), 0)
    let key := Key.sequential "mixed-" 0
    MemoryEngine.openAt "db" ⟨"db", false, true⟩ Disk.empty = (.ok handle, disk) ∧
      (endOn handle handle.save disk id generator (.mixed plan) 3).1 = .ok ⟨3, 1, 3⟩ ∧
      loop.map Prod.snd = [.get key, .put key [37], .contains key] ∧
      engine.valueBytes loop = 2 := by
  decide +kernel

end Workload

end StoreTrial
