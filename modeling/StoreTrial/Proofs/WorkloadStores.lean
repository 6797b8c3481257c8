import StoreTrial.Proofs.MixedOverwrites
import StoreTrial.Proofs.WorkloadCalls

/-! # Stores of a workload

What a workload leaves in the store of an open handle. Its calls are all granted, since every key
that is read or deleted is there (`StoreTrial.Request.AllServed`). Puts of one value under each key
may come in any order and as often as they like (`StoreTrial.Store.changed_insertAll`), so the
store in the end has changed by what the workload writes and removes
(`StoreTrial.Workload.store_after_measure`).
-/

namespace StoreTrial

namespace Store

def eraseAll (store : Store) (keys : List Bytes) : Store := keys.foldl erase store

/-- Some entries were written and some keys removed, and nothing else changed. -/
structure Changed (written : List (Bytes × Bytes)) (removed : List Bytes)
    (before after : Store) : Prop where
  holds : ∀ key value, (key, value) ∈ written → after.get? key = some value
  lacks : ∀ key ∈ removed, after.get? key = none
  keeps : ∀ key, key ∉ written.map Prod.fst → key ∉ removed → after.get? key = before.get? key

variable {entries written : List (Bytes × Bytes)} {keys : List Bytes} {key value : Bytes}

theorem get?_insertAll_of_not_mem (other : key ∉ entries.map Prod.fst) (store : Store) :
    (store.insertAll entries).get? key = store.get? key := by
  induction entries generalizing store with
  | nil => rfl
  | cons entry rest ih =>
      rw [List.map_cons, List.mem_cons, not_or] at other
      exact (ih other.2 _).trans (by rw [get?_insert, if_neg other.1])

/-- A key holds what came for it, if that was always the same. -/
theorem get?_insertAll_of_forall (same : ∀ other, (key, other) ∈ entries → other = value)
    (member : (key, value) ∈ entries) (store : Store) :
    (store.insertAll entries).get? key = some value := by
  induction entries generalizing store with
  | nil => cases member
  | cons entry rest ih =>
      change ((store.insert entry.1 entry.2).insertAll rest).get? key = some value
      by_cases later : (key, value) ∈ rest
      · exact ih (fun other again => same other (List.mem_cons_of_mem _ again)) later _
      · -- Then the first entry is the last one for its key.
        obtain rfl : (key, value) = entry := (List.mem_cons.mp member).resolve_right later
        rw [get?_insertAll_of_not_mem, get?_insert, if_pos rfl]
        intro again
        obtain ⟨⟨_, other⟩, present, rfl⟩ := List.mem_map.mp again
        obtain rfl := same other (List.mem_cons_of_mem _ present)
        exact later present

theorem eq_of_mem_of_nodup (distinct : (written.map Prod.fst).Nodup) {other : Bytes}
    (member : (key, value) ∈ written) (again : (key, other) ∈ written) : other = value := by
  have same := List.inj_on_of_nodup_map distinct again member rfl
  exact congrArg Prod.snd same

/-- Entries with different keys are written by putting them in, in any order and as often as one
likes. -/
theorem changed_insertAll (distinct : (written.map Prod.fst).Nodup)
    (listed : ∀ entry, entry ∈ entries ↔ entry ∈ written) (store : Store) :
    Changed written [] store (store.insertAll entries) where
  holds := by
    intro key value member
    apply get?_insertAll_of_forall _ ((listed _).mpr member)
    intro other again
    exact eq_of_mem_of_nodup distinct member ((listed _).mp again)
  lacks := by simp
  keeps := by
    intro key other _
    apply get?_insertAll_of_not_mem
    intro member
    obtain ⟨entry, present, rfl⟩ := List.mem_map.mp member
    exact other (List.mem_map_of_mem ((listed entry).mp present))

theorem get?_eraseAll (store : Store) (keys : List Bytes) (key : Bytes) :
    (store.eraseAll keys).get? key = if key ∈ keys then none else store.get? key := by
  induction keys generalizing store with
  | nil => rfl
  | cons first rest ih =>
      change ((store.erase first).eraseAll rest).get? key = _
      rw [ih, get?_erase]
      by_cases own : key = first
      · simp [own]
      · simp [own]

theorem Changed.eraseAll {before after : Store} (changed : Changed written [] before after)
    (listed : written.map Prod.fst = keys) : Changed [] keys before (after.eraseAll keys) where
  holds := by simp
  lacks := by
    intro key member
    rw [get?_eraseAll, if_pos member]
  keeps := by
    intro key _ other
    rw [get?_eraseAll, if_neg other]
    exact changed.keeps key (listed ▸ other) List.not_mem_nil

end Store

namespace Request

variable {store : Store} {requests others : List Request}

/-- Whether a call on a key finds what it needs. -/
def Served (store : Store) : Request → Prop
  | put _ _ | contains _ => True
  | get key | delete key => store.contains key = true
  | close => False

/-- Each of some calls finds what it needs after the ones before it. -/
def AllServed : (store : Store) → (requests : List Request) → Prop
  | _, [] => True
  | store, request :: rest => request.Served store ∧ AllServed (request.applied store) rest

theorem allServed_append :
    AllServed store (requests ++ others) ↔
      AllServed store requests ∧ AllServed (requests.foldl applied store) others := by
  induction requests generalizing store with
  | nil => simp [AllServed]
  | cons request rest ih => simp only [List.cons_append, AllServed, ih, List.foldl_cons, and_assoc]

theorem allServed_puts (entries : List (Bytes × Bytes)) (store : Store) :
    AllServed store (puts entries) := by
  induction entries generalizing store with
  | nil => trivial
  | cons entry rest ih => exact ⟨trivial, ih _⟩

theorem foldl_applied_puts (entries : List (Bytes × Bytes)) (store : Store) :
    (puts entries).foldl applied store = store.insertAll entries := by
  induction entries generalizing store with
  | nil => rfl
  | cons entry rest ih => exact ih _

theorem foldl_applied_of_forall (idle : ∀ request ∈ requests, request.applied store = store) :
    requests.foldl applied store = store := by
  induction requests with
  | nil => rfl
  | cons request rest ih =>
      obtain ⟨first, later⟩ := List.forall_mem_cons.mp idle
      rw [List.foldl_cons, first, ih later]

theorem allServed_of_forall (idle : ∀ request ∈ requests, request.applied store = store)
    (served : ∀ request ∈ requests, request.Served store) : AllServed store requests := by
  induction requests with
  | nil => trivial
  | cons request rest ih =>
      obtain ⟨first, later⟩ := List.forall_mem_cons.mp idle
      obtain ⟨found, others⟩ := List.forall_mem_cons.mp served
      refine ⟨found, ?_⟩
      rw [first]
      exact ih later others

theorem foldl_applied_deletes (keys : List Bytes) (store : Store) :
    (keys.map delete).foldl applied store = store.eraseAll keys := by
  rw [List.foldl_map]
  rfl

/-- Different keys that are all present can be deleted one after another. -/
theorem allServed_deletes {keys : List Bytes} (distinct : keys.Nodup)
    (present : ∀ key ∈ keys, store.contains key = true) : AllServed store (keys.map delete) := by
  induction keys generalizing store with
  | nil => trivial
  | cons key rest ih =>
      rw [List.nodup_cons] at distinct
      obtain ⟨first, later⟩ := List.forall_mem_cons.mp present
      refine ⟨first, ih distinct.2 ?_⟩
      intro other member
      have apart : other ≠ key := ne_of_mem_of_not_mem member distinct.1
      rw [Store.contains, applied, Store.get?_erase, if_neg apart]
      exact later other member

/-- Calls are served on a store, and change it by some written entries and removed keys. -/
structure Works (store : Store) (requests : List Request) (written : List (Bytes × Bytes))
    (removed : List Bytes) : Prop where
  served : AllServed store requests
  changed : Store.Changed written removed store (requests.foldl applied store)

variable {entries written : List (Bytes × Bytes)} {keys : List Bytes}

theorem works_puts (distinct : (written.map Prod.fst).Nodup)
    (listed : ∀ entry, entry ∈ entries ↔ entry ∈ written) (store : Store) :
    Works store (puts entries) written [] where
  served := allServed_puts entries store
  changed := by
    rw [foldl_applied_puts]
    exact Store.changed_insertAll distinct listed store

/-- What was put before is found by reads. -/
theorem Works.reads (works : Works store requests written [])
    (reads : ∀ request ∈ others, ∃ key ∈ written.map Prod.fst,
      request = .get key ∨ request = .contains key) :
    Works store (requests ++ others) written [] := by
  have idle : ∀ request ∈ others, request.applied (requests.foldl applied store) =
      requests.foldl applied store := by
    intro request member
    obtain ⟨key, _, rfl | rfl⟩ := reads request member
    · rfl
    · rfl
  constructor
  · refine allServed_append.mpr ⟨works.served, allServed_of_forall idle ?_⟩
    intro request member
    obtain ⟨key, present, rfl | rfl⟩ := reads request member
    · obtain ⟨⟨key, value⟩, held, rfl⟩ := List.mem_map.mp present
      rw [Served, Store.contains, works.changed.holds key value held, Option.isSome_some]
    · trivial
  · rw [List.foldl_append, foldl_applied_of_forall idle]
    exact works.changed

/-- What was put before can be deleted again. -/
theorem Works.deletes (works : Works store requests written [])
    (distinct : (written.map Prod.fst).Nodup) :
    Works store (requests ++ (written.map Prod.fst).map delete) [] (written.map Prod.fst) := by
  constructor
  · refine allServed_append.mpr ⟨works.served, allServed_deletes distinct ?_⟩
    intro key present
    obtain ⟨⟨key, value⟩, held, rfl⟩ := List.mem_map.mp present
    rw [Store.contains, works.changed.holds key value held, Option.isSome_some]
  · rw [List.foldl_append, foldl_applied_deletes]
    exact works.changed.eraseAll rfl

end Request

namespace MemoryEngine

variable {μ : Type} {save : Save μ} {requests : List Request} {before after : MemoryEngine × μ}
  {made : List ((MemoryEngine × μ) × Request)} {outcome : Outcome Unit}

/-- Calls on an open handle that find what they need are all granted, if changes can be saved. -/
theorem granted_of_allServed
    (turns : (answering save).InTurn requests before made outcome after)
    (opened : before.1.closed = false)
    (saved : before.1.syncWrites = true → ∀ store medium, (save store medium).1 = .ok ())
    (served : Request.AllServed before.1.store requests) :
    outcome = .ok () ∧
      after.1 = { before.1 with store := requests.foldl Request.applied before.1.store } ∧
      ∀ call ∈ made, call.2.Served call.1.1.store := by
  induction turns with
  | finished state => exact ⟨rfl, rfl, by simp⟩
  | @answered request rest before after made outcome answer granted later ih =>
      obtain ⟨first, others⟩ := served
      have other : request ≠ .close := by
        rintro rfl
        exact first
      rw [answering_handle opened other] at ih
      obtain ⟨fine, left, each⟩ := ih opened saved others
      exact ⟨fine, left, List.forall_mem_cons.mpr ⟨first, each⟩⟩
  | @refused request rest before stop denied =>
      obtain ⟨first, others⟩ := served
      have other : request ≠ .close := by
        rintro rfl
        exact first
      apply absurd denied
      apply answering_ne_error opened other saved
      rintro key rfl
      exact Option.isSome_iff_ne_none.mp first

end MemoryEngine

namespace Workload

variable {ε : Type} [EntropySource ε]

/-- The entries that a case other than a mix leaves in a store. -/
def written : (workload : Workload) → (iterations : Nat) → Draw ε (List (Bytes × Bytes))
  | single operation valueSize, iterations => do
      let value ← Generator.value valueSize
      let count := match operation with
        | .put | .insert => iterations
        | .get | .contains => 1
        | .delete => 0
      return (Key.sequentialKeys "single-" count).map (·, value)
  | batch size valueSize, iterations => do
      let values ← Draw.replicate (Generator.value valueSize) size
      return if iterations = 0 then [] else (Key.sequentialKeys "batch-" size).zip values
  | randomGet population valueSize, _ => do
      let value ← Generator.value valueSize
      return (Key.sequentialKeys "random-" population).map (·, value)
  | putOnly plan, iterations => do
      let keys ← Generator.uniqueKeys plan.items plan.keySize
      let values ← Draw.replicate (Generator.value plan.valueSize) plan.items
      return (keys.zip values).take iterations
  | mixed _, _ => return []

/-- The keys that a case removes from a store. -/
def removed : (workload : Workload) → (iterations : Nat) → List Bytes
  | single .delete _, iterations => Key.sequentialKeys "single-" iterations
  | _, _ => []

def writtenCount : (workload : Workload) → (iterations : Nat) → Nat
  | single .put _, iterations | single .insert _, iterations => iterations
  | single .get _, _ | single .contains _, _ => 1
  | batch size _, iterations => if iterations = 0 then 0 else size
  | randomGet population _, _ => population
  | putOnly plan, iterations => min iterations plan.items
  | single .delete _, _ | mixed _, _ => 0

variable {workload : Workload}

theorem map_fst_pairs (keys : List Bytes) (value : Bytes) :
    (keys.map (·, value)).map Prod.fst = keys := by
  rw [List.map_map]
  exact List.map_id keys

theorem length_pairs (stem : String) (count : Nat) (value : Bytes) :
    ((Key.sequentialKeys stem count).map (·, value)).length = count := by
  rw [List.length_map, Key.length_sequentialKeys]

theorem nodup_pairs (stem : String) (count : Nat) (value : Bytes) :
    (((Key.sequentialKeys stem count).map (·, value)).map Prod.fst).Nodup := by
  rw [map_fst_pairs]
  exact Key.nodup_sequentialKeys stem count

section Zipped

variable {size : Nat} {keys values : List Bytes}

theorem map_fst_zip (length : keys.length = size) (full : values.length = size) :
    (keys.zip values).map Prod.fst = keys :=
  List.map_fst_zip (Nat.le_of_eq (length.trans full.symm))

theorem length_zip (length : keys.length = size) (full : values.length = size) :
    (keys.zip values).length = size := by
  rw [List.length_zip, length, full, Nat.min_self]

end Zipped

theorem nodup_written (workload : Workload) (iterations : Nat) (generator : Generator ε) :
    ((workload.written iterations generator).value.map Prod.fst).Nodup := by
  cases workload with
  | single operation valueSize => exact nodup_pairs _ _ _
  | batch size valueSize =>
      change ((if iterations = 0 then [] else _).map Prod.fst).Nodup
      split
      · exact List.nodup_nil
      · rw [map_fst_zip (Key.length_sequentialKeys _ _) (Draw.length_replicate _ _ _)]
        exact Key.nodup_sequentialKeys _ _
  | randomGet population valueSize => exact nodup_pairs _ _ _
  | mixed plan => exact List.nodup_nil
  | putOnly plan =>
      let drawn := Generator.uniqueKeys plan.items plan.keySize generator
      change (((drawn.value.zip _).take iterations).map Prod.fst).Nodup
      have different : drawn.value.Nodup := (Generator.nodup_freeKeys (Nat.le_refl 0)).1
      rw [List.map_take, map_fst_zip (length_uniqueKeys _ _ _) (Draw.length_replicate _ _ _)]
      exact different.sublist (List.take_sublist _ _)

theorem length_written (workload : Workload) (iterations : Nat) (generator : Generator ε) :
    (workload.written iterations generator).value.length = workload.writtenCount iterations := by
  cases workload with
  | single operation valueSize => cases operation <;> exact length_pairs _ _ _
  | batch size valueSize =>
      change (if iterations = 0 then [] else _).length = if iterations = 0 then 0 else size
      split
      · rfl
      · exact length_zip (Key.length_sequentialKeys _ _) (Draw.length_replicate _ _ _)
  | randomGet population valueSize => exact length_pairs _ _ _
  | mixed plan => rfl
  | putOnly plan =>
      change ((_ : List _).take iterations).length = _
      rw [List.length_take, length_zip (length_uniqueKeys _ _ _) (Draw.length_replicate _ _ _),
        writtenCount]

theorem requests_of_setback (fine : workload.setback? = none) (iterations : Nat)
    (generator : Generator ε) :
    workload.requests iterations generator =
      (workload.course iterations generator).value.requests iterations := by
  rw [requests, if_pos fine]

/-- The calls of a case are served on every store and change it by what the case writes and
removes. -/
def Works (workload : Workload) (iterations : Nat) (generator : Generator ε) : Prop :=
  ∀ store, Request.Works store (workload.requests iterations generator)
    (workload.written iterations generator).value (workload.removed iterations)

theorem works_populated (stem : String) (count : Nat) (value : Bytes) (store : Store) :
    Request.Works store (Request.puts ((Key.sequentialKeys stem count).map (·, value)))
      ((Key.sequentialKeys stem count).map (·, value)) [] :=
  Request.works_puts (nodup_pairs stem count value) (fun _ => Iff.rfl) store

theorem flatMap_sequential (stem : String) (count : Nat) (request : Bytes → Request) :
    ((List.range count).flatMap fun index => [request (Key.sequential stem index)]) =
      (Key.sequentialKeys stem count).map request := by
  rw [Key.sequentialKeys, List.map_map, List.map_eq_flatMap]
  rfl

theorem works_single (operation : Operation) (valueSize iterations : Nat)
    (generator : Generator ε) : (single operation valueSize).Works iterations generator := by
  intro store
  rw [requests_of_setback rfl]
  let value := (Generator.value valueSize generator).value
  cases operation with
  | put | insert =>
      have works := works_populated "single-" iterations value store
      have puts := flatMap_sequential "single-" iterations (.put · value)
      have listed : Request.puts ((Key.sequentialKeys "single-" iterations).map (·, value)) =
          (Key.sequentialKeys "single-" iterations).map (.put · value) := List.map_map
      rwa [listed, ← puts] at works
  | get | contains =>
      apply (works_populated "single-" 1 value store).reads
      intro request member
      obtain ⟨iteration, _, last⟩ := List.mem_flatMap.mp member
      obtain rfl := List.mem_singleton.mp last
      exact ⟨_, List.mem_singleton_self _, by simp [singleRequest]⟩
  | delete =>
      have works := (works_populated "single-" iterations value store).deletes
        (nodup_pairs "single-" iterations value)
      rwa [map_fst_pairs, ← flatMap_sequential] at works

theorem works_batch (size valueSize iterations : Nat) (generator : Generator ε) :
    (batch size valueSize).Works iterations generator := by
  intro store
  let values := (Draw.replicate (Generator.value valueSize) size generator).value
  let entries := (Key.sequentialKeys "batch-" size).zip values
  have repeated : (List.range iterations).flatMap (fun _ => Request.puts entries) =
      Request.puts ((List.range iterations).flatMap fun _ => entries) := by
    rw [Request.puts, Request.puts, List.map_flatMap]
  have distinct : ((if iterations = 0 then [] else entries).map Prod.fst).Nodup :=
    nodup_written (batch size valueSize) iterations generator
  have listed (entry : Bytes × Bytes) :
      (entry ∈ (List.range iterations).flatMap fun _ => entries) ↔
        entry ∈ if iterations = 0 then [] else entries := by
    by_cases none : iterations = 0
    · simp [none]
    · have made : ∃ iteration, iteration < iterations := ⟨0, Nat.pos_of_ne_zero none⟩
      simp [none, made]
  have works := Request.works_puts distinct listed store
  rw [← repeated] at works
  rwa [requests_of_setback rfl]

theorem works_randomGet {population : Nat} (populated : 0 < population)
    (valueSize iterations : Nat) (generator : Generator ε) :
    (randomGet population valueSize).Works iterations generator := by
  intro store
  let value := (Generator.value valueSize generator).value
  rw [requests_of_setback (by simp [setback?, rejection?, Nat.ne_of_gt populated, lacksValues])]
  apply (works_populated "random-" population value store).reads
  intro request member
  obtain ⟨iteration, _, last⟩ := List.mem_flatMap.mp member
  obtain rfl := List.mem_singleton.mp last
  refine ⟨_, ?_, .inl rfl⟩
  rw [map_fst_pairs, Key.sequentialKeys]
  exact List.mem_map_of_mem (List.mem_range.mpr (Nat.mod_lt iteration populated))

/-- Going round some elements comes to the first ones, and to no others. -/
theorem mem_flatMap_getElem?_mod {α : Type} (elements : List α) (count : Nat) (element : α) :
    (element ∈ (List.range count).flatMap fun index => elements[index % elements.length]?.toList) ↔
      element ∈ elements.take count := by
  simp only [List.mem_flatMap, List.mem_range, Option.mem_toList]
  constructor
  · rintro ⟨index, bound, found⟩
    obtain ⟨inside, rfl⟩ := List.getElem?_eq_some_iff.mp found
    rw [List.mem_take_iff_getElem]
    have early := Nat.mod_le index elements.length
    exact ⟨index % elements.length, by omega, rfl⟩
  · intro member
    obtain ⟨index, bound, rfl⟩ := List.mem_take_iff_getElem.mp member
    refine ⟨index, by omega, ?_⟩
    rw [Nat.mod_eq_of_lt (by omega)]
    exact List.getElem?_eq_getElem _

theorem works_putOnly {plan : Plan} (items : 0 < plan.items) (iterations : Nat)
    (generator : Generator ε) : (putOnly plan).Works iterations generator := by
  intro store
  let drawn := Generator.uniqueKeys plan.items plan.keySize generator
  let values := (Draw.replicate (Generator.value plan.valueSize) plan.items drawn.generator).value
  let entries := drawn.value.zip values
  have length : entries.length = plan.items :=
    length_zip (length_uniqueKeys _ _ _) (Draw.length_replicate _ _ _)
  have gathered : (List.range iterations).flatMap
        (fun iteration => Request.puts entries[iteration % plan.items]?.toList) =
      Request.puts ((List.range iterations).flatMap
        fun iteration => entries[iteration % entries.length]?.toList) := by
    unfold Request.puts
    rw [List.map_flatMap, length]
  have distinct : ((entries.take iterations).map Prod.fst).Nodup :=
    nodup_written (putOnly plan) iterations generator
  have works := Request.works_puts distinct (mem_flatMap_getElem?_mod entries iterations) store
  rw [← gathered] at works
  rwa [requests_of_setback (by simp [setback?, rejection?, Nat.ne_of_gt items, lacksValues])]

theorem works_of_rejection (unmixed : ∀ plan, workload ≠ .mixed plan)
    (accepted : workload.rejection? = none) (iterations : Nat) (generator : Generator ε) :
    workload.Works iterations generator := by
  cases workload with
  | single operation valueSize => exact works_single _ _ _ _
  | batch size valueSize => exact works_batch _ _ _ _
  | randomGet population valueSize =>
      have populated : population ≠ 0 := by
        rintro rfl
        cases accepted
      exact works_randomGet (Nat.pos_of_ne_zero populated) _ _ _
  | mixed plan => exact absurd rfl (unmixed plan)
  | putOnly plan =>
      have items : plan.items ≠ 0 := by
        intro none
        rw [rejection?, if_pos none] at accepted
        cases accepted
      exact works_putOnly (Nat.pos_of_ne_zero items) _ _

variable {μ : Type} {handle : MemoryEngine} {save : MemoryEngine.Save μ}

/-- How measuring a workload on a handle ends: its outcome, and the handle and the medium
afterwards. -/
def endOn (handle : MemoryEngine) (save : MemoryEngine.Save μ) (medium : μ) (clock : Nat → Nat)
    (generator : Generator ε) (workload : Workload) (iterations : Nat) :
    Outcome Measurement × (MemoryEngine × μ) :=
  let ended := ((measure workload iterations).script generator).run
    (Probe.answer (MemoryEngine.answering save) clock) ((handle, medium), 0)
  (ended.1.1, ended.2.1)

/-- No call is refused, so all are made and the workload is measured. -/
theorem ends_measure_on_handle (unmixed : ∀ plan, workload ≠ .mixed plan)
    (accepted : workload.rejection? = none) (opened : handle.closed = false)
    (saved : handle.syncWrites = true → ∀ store medium, (save store medium).1 = .ok ())
    (generator : Generator ε) (medium : μ) (clock : Nat → Nat) (iterations : Nat) :
    let requests := workload.requests iterations generator
    ∃ made elapsed later after,
      Probing.Ends (MemoryEngine.answering save) clock (measure workload iterations) generator
        ((handle, medium), 0) made
        (.ok ⟨iterations, elapsed, wrapped (iterations * workload.bytesPerIteration)⟩) later
        after ∧
      made.map Prod.snd = requests ∧
      after.1.1 = { handle with store := requests.foldl Request.applied handle.store } ∧
      ∀ call ∈ made, call.2.Served call.1.1.store := by
  intro requests
  obtain ⟨made, outcome, measured, later, after, ends, turns, ending⟩ :=
    ends_measure workload iterations generator (MemoryEngine.answering save) clock
      ((handle, medium), 0)
  have works := works_of_rejection unmixed accepted iterations generator handle.store
  obtain ⟨rfl, left, served⟩ := MemoryEngine.granted_of_allServed turns opened saved works.served
  have unset : workload.setback? = none :=
    (setback?_eq_none_iff (lacksValues_eq_false fun plan mixes => absurd mixes (unmixed plan))).mpr
      accepted
  rw [EndsWith, unset] at ending
  obtain ⟨elapsed, rfl⟩ := ending
  exact ⟨made, elapsed, later, after, ends, turns.requests_eq rfl, left, served⟩

/-- **A workload on an open handle is measured, and its store has then changed by what the
workload writes and removes.** Every delete finds its key. -/
theorem store_after_measure (unmixed : ∀ plan, workload ≠ .mixed plan)
    (accepted : workload.rejection? = none) (opened : handle.closed = false)
    (saved : handle.syncWrites = true → ∀ store medium, (save store medium).1 = .ok ())
    (generator : Generator ε) (medium : μ) (clock : Nat → Nat) (iterations : Nat) :
    let calls := callsOn handle save medium clock generator workload iterations
    let ended := endOn handle save medium clock generator workload iterations
    let final := ended.2.1
    let written := (workload.written iterations generator).value
    let removed := workload.removed iterations
    (∃ elapsed, ended.1 =
      .ok ⟨iterations, elapsed, wrapped (iterations * workload.bytesPerIteration)⟩) ∧
    calls.map Prod.snd = workload.requests iterations generator ∧
    (∀ met left key, ((met, left), .delete key) ∈ calls → met.store.contains key = true) ∧
    final = { handle with store := final.store } ∧
    handle.store.Changed written removed final.store ∧
    (written.map Prod.fst).Nodup ∧ written.length = workload.writtenCount iterations := by
  intro calls ended final written removed
  obtain ⟨made, elapsed, later, after, ends, turned, left, served⟩ :=
    ends_measure_on_handle unmixed accepted opened saved generator medium clock iterations
  have works := works_of_rejection unmixed accepted iterations generator handle.store
  have all : calls = made := ends.calls
  have last : ended =
      (.ok ⟨iterations, elapsed, wrapped (iterations * workload.bytesPerIteration)⟩, after.1) :=
    congrArg (fun ended => (ended.1.1, ended.2.1)) ends.run
  have store : final.store = (workload.requests iterations generator).foldl Request.applied
      handle.store := by
    change ended.2.1.store = _
    rw [last, left]
  refine ⟨⟨elapsed, by rw [last]⟩, ?_, ?_, ?_, ?_, nodup_written _ _ _, length_written _ _ _⟩
  · rw [all]
    exact turned
  · intro met left key member
    rw [all] at member
    exact served _ member
  · rw [store]
    change ended.2.1 = _
    rw [last]
    exact left
  · rw [store]
    exact works.changed

/-- Keys of one letter, all of which are drawn alike, are put in five iterations over three items;
one of them was in the store before. -/
theorem store_after_measure_one_letter :
    let handle : MemoryEngine := ⟨"db", true, (Store.empty.insert [81] [1]).insert [9] [7], false⟩
    let save : MemoryEngine.Save Unit := fun _ medium => (.ok (), medium)
    let plan : Plan := { name := "p", keySize := 1, valueSize := 2, items := 3 }
    let generator : Generator Source := { source := .unavailable, seed := defaultSeed }
    ((∀ other, putOnly plan ≠ .mixed other) ∧ (putOnly plan).rejection? = none ∧
      handle.closed = false ∧
      (handle.syncWrites = true → ∀ store medium, (save store medium).1 = .ok ())) ∧
    (∃ elapsed, (endOn handle save () id generator (.putOnly plan) 5).1 = .ok ⟨5, elapsed, 15⟩) ∧
    (∀ key ∈ [[81], [48, 48, 48, 48, 48, 49], [48, 48, 48, 48, 48, 50]],
      (endOn handle save () id generator (.putOnly plan) 5).2.1.store.get? key = some [37, 94]) ∧
    (endOn handle save () id generator (.putOnly plan) 5).2.1.store.get? [9] = some [7] := by
  intro handle save plan generator
  have unmixed : ∀ other, putOnly plan ≠ .mixed other := nofun
  have accepted : (putOnly plan).rejection? = none := rfl
  have opened : handle.closed = false := rfl
  have saved : handle.syncWrites = true → ∀ store medium, (save store medium).1 = .ok () := by
    intro _ store medium
    rfl
  obtain ⟨fine, _, _, _, changed, _⟩ :=
    store_after_measure unmixed accepted opened saved generator () id 5
  have bytes : wrapped (5 * (putOnly plan).bytesPerIteration) = 15 := rfl
  have written : (written (.putOnly plan) 5 generator).value =
      [([81], [37, 94]), ([48, 48, 48, 48, 48, 49], [37, 94]),
        ([48, 48, 48, 48, 48, 50], [37, 94])] := by decide +kernel
  rw [bytes] at fine
  rw [written] at changed
  refine ⟨⟨unmixed, accepted, opened, saved⟩, fine, ?_, ?_⟩
  · intro key member
    exact changed.holds key [37, 94] (by simpa using member)
  · rw [changed.keeps [9] (by decide) (by decide)]
    decide +kernel

end Workload

end StoreTrial
