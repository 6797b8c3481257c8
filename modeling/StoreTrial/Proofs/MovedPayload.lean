import StoreTrial.Proofs.MeasuredLoop
import StoreTrial.Proofs.WorkloadStores

/-! # Payload that calls move

A put moves the value that it is given, and a get the value that it returns. The values of a
workload all have the size of the case: those it writes because a generator gives as many letters
as it is asked for, and those it reads because it has written them itself. So the calls of the
measured loop move this size as often as they put or get
(`StoreTrial.Workload.valueBytes_of_measured`).
-/

namespace StoreTrial

namespace Request

/-- The bytes of the value that a call moves: the one that is put, or the one that a get
returned. -/
def valueBytes : (request : Request) → Outcome request.Answer → Nat
  | .put _ value, _ => value.length
  | .get _, .ok value => value.length
  | .get _, .error _ => 0
  | .delete _, _ | .contains _, _ | .close, _ => 0

/-- How many values a call moves. -/
def values : Request → Nat
  | .put _ _ | .get _ => 1
  | .delete _ | .contains _ | .close => 0

/-- A call puts a value of this size, or gets one of these keys, or moves no value and leaves
these keys alone. -/
def IsSized (size : Nat) (keys : List Bytes) : Request → Prop
  | .put _ value => value.length = size
  | .get key => key ∈ keys
  | .delete key => key ∉ keys
  | .contains _ => True
  | .close => False

theorem IsSized.ne_close {size : Nat} {keys : List Bytes} {request : Request}
    (sized : request.IsSized size keys) : request ≠ .close := by
  rintro rfl
  exact sized

end Request

/-- The bytes of the values that calls on an engine move. -/
def Engine.valueBytes {σ : Type} (engine : Engine σ) (calls : List (σ × Request)) : Nat :=
  (calls.map fun call => call.2.valueBytes (engine call.2 call.1).1).sum

namespace Store

variable {size : Nat} {keys : List Bytes} {store : Store}

/-- Each of these keys holds a value of this size. -/
def IsSized (store : Store) (size : Nat) (keys : List Bytes) : Prop :=
  ∀ key ∈ keys, ∃ value, store.get? key = some value ∧ value.length = size

theorem IsSized.insert (sized : store.IsSized size keys) (key : Bytes) {value : Bytes}
    (full : value.length = size) : (store.insert key value).IsSized size keys := by
  intro sought member
  rw [get?_insert]
  split
  · exact ⟨value, rfl, full⟩
  · exact sized sought member

theorem IsSized.erase (sized : store.IsSized size keys) {key : Bytes} (other : key ∉ keys) :
    (store.erase key).IsSized size keys := by
  intro sought member
  rw [get?_erase, if_neg (ne_of_mem_of_not_mem member other)]
  exact sized sought member

/-- What a call leaves behind is sized if the call is. -/
theorem IsSized.applied (sized : store.IsSized size keys) {request : Request}
    (fine : request.IsSized size keys) : (request.applied store).IsSized size keys := by
  cases request with
  | put key value => exact sized.insert key fine
  | get key => exact sized
  | delete key => exact sized.erase fine
  | contains key => exact sized
  | close => exact fine.elim

theorem isSized_insertAll {entries : List (Bytes × Bytes)}
    (full : ∀ entry ∈ entries, entry.2.length = size) (store : Store) :
    (store.insertAll entries).IsSized size (entries.map Prod.fst) := by
  suffices grown : ∀ keys, store.IsSized size keys →
      (store.insertAll entries).IsSized size (keys ++ entries.map Prod.fst) from
    grown [] fun _ member => absurd member List.not_mem_nil
  induction entries generalizing store with
  | nil => simp [insertAll]
  | cons entry rest ih =>
      intro keys sized
      obtain ⟨first, others⟩ := List.forall_mem_cons.mp full
      have kept : (store.insert entry.1 entry.2).IsSized size (keys ++ [entry.1]) := by
        intro key member
        rcases List.mem_append.mp member with old | new
        · exact sized.insert entry.1 first key old
        · obtain rfl := List.mem_singleton.mp new
          exact ⟨entry.2, by rw [get?_insert, if_pos rfl], first⟩
      have later := ih others _ _ kept
      rwa [List.append_assoc] at later

end Store

namespace MemoryEngine

variable {μ : Type} {save : Save μ} {handle : MemoryEngine} {medium : μ} {request : Request}
  {requests : List Request} {before after : MemoryEngine × μ}
  {made : List ((MemoryEngine × μ) × Request)} {size : Nat} {keys : List Bytes}

/-- Only an open handle grants calls. -/
theorem open_of_granted {answer : request.Answer}
    (granted : (answering save request (handle, medium)).1 = .ok answer) :
    handle.closed = false := by
  by_contra shut
  rw [answering, call_of_closed save (by simpa using shut)] at granted
  cases granted

/-- A granted get returns what the handle holds under the key. -/
theorem get?_of_granted {key value : Bytes}
    (granted : (answering save (.get key) (handle, medium)).1 = .ok value) :
    handle.store.get? key = some value := by
  have opened := open_of_granted granted
  rw [answering, call_of_open opened (by simp), perform] at granted
  cases found : handle.store.get? key with
  | none =>
      rw [found] at granted
      cases granted
  | some held =>
      rw [found] at granted
      cases granted
      rfl

/-- A granted call that is sized moves this size for each value that it moves. -/
theorem valueBytes_of_granted (sized : handle.store.IsSized size keys)
    (fine : request.IsSized size keys) {answer : request.Answer}
    (granted : (answering save request (handle, medium)).1 = .ok answer) :
    request.valueBytes (answering save request (handle, medium)).1 = size * request.values := by
  rw [granted]
  cases request with
  | put key value =>
      have full : value.length = size := fine
      exact full.trans (Nat.mul_one size).symm
  | get key =>
      obtain ⟨value, held, full⟩ := sized key fine
      rw [get?_of_granted granted] at held
      obtain rfl := Option.some.inj held
      exact full.trans (Nat.mul_one size).symm
  | delete key => rfl
  | contains key => rfl
  | close => rfl

/-- Granted calls leave the store that they make of it one after another. -/
theorem store_of_inTurn (turns : (answering save).InTurn requests before made (.ok ()) after)
    (unclosing : ∀ request ∈ requests, request ≠ .close) :
    after.1.store = requests.foldl Request.applied before.1.store := by
  generalize ending : (Except.ok () : Outcome Unit) = outcome at turns
  induction turns with
  | finished state => rfl
  | @answered request rest before after made outcome answer granted later ih =>
      obtain ⟨first, others⟩ := List.forall_mem_cons.mp unclosing
      rw [ih others ending, answering_handle (open_of_granted granted) first]
      rfl
  | refused denied => cases ending

/-- **Granted calls that are sized move this size for each value that they move.** -/
theorem valueBytes_of_inTurn
    (turns : (answering save).InTurn requests before made (.ok ()) after)
    (sized : before.1.store.IsSized size keys)
    (fine : ∀ request ∈ requests, request.IsSized size keys) :
    (answering save).valueBytes made = size * (requests.map Request.values).sum := by
  generalize ending : (Except.ok () : Outcome Unit) = outcome at turns
  induction turns with
  | finished state => rfl
  | @answered request rest before after made outcome answer granted later ih =>
      obtain ⟨first, others⟩ := List.forall_mem_cons.mp fine
      have opened := open_of_granted granted
      have moved := valueBytes_of_granted sized first granted
      have kept : (answering save request before).2.1.store.IsSized size keys := by
        rw [answering_handle opened first.ne_close]
        exact sized.applied first
      have rest := ih kept others ending
      rw [Engine.valueBytes] at rest ⊢
      rw [List.map_cons, List.sum_cons, rest, List.map_cons, List.sum_cons, Nat.mul_add]
      exact congrArg (· + _) moved
  | refused denied => cases ending

end MemoryEngine

namespace Generator

variable {ε : Type} [EntropySource ε]

theorem length_value (length : Nat) (generator : Generator ε) :
    (value length generator).value.length = length :=
  (isPayload_value length generator).full

theorem length_of_mem_values {length count : Nat} {generator : Generator ε} {payload : Bytes}
    (member : payload ∈ (Draw.replicate (value length) count generator).value) :
    payload.length = length := by
  induction count generalizing generator with
  | zero => cases member
  | succ count ih =>
      rcases List.mem_cons.mp member with rfl | later
      · exact length_value length generator
      · exact ih later

end Generator

namespace MixedValues

variable {ε : Type} [EntropySource ε] {plan : Plan} {generator : Generator ε}

theorem length_populated : (draw plan generator).value.populated.length = plan.valueSize :=
  Generator.length_value _ _

theorem length_fresh (iteration : Nat) :
    ((draw plan generator).value.fresh plan iteration).length = plan.valueSize := by
  rw [fresh]
  split
  · exact Generator.length_value _ _
  · exact toldApart_perm.length_eq.trans (Generator.length_value _ _)

end MixedValues

/-- A course puts values of one size, and gets only keys that it has populated. -/
structure Course.IsSized (course : Course) (size : Nat) (keys : List Bytes) : Prop where
  held : ∀ key ∈ keys, key ∈ course.populated.map Prod.fst
  populated : ∀ entry ∈ course.populated, entry.2.length = size
  turns : ∀ iteration, ∀ request ∈ course.turn iteration, request.IsSized size keys

namespace Workload

/-- The size of the values of a case. -/
def valueSize : Workload → Nat
  | single _ valueSize | batch _ valueSize | randomGet _ valueSize => valueSize
  | mixed plan | putOnly plan => plan.valueSize

/-- The keys that the iterations of a case get. -/
def gottenKeys : Workload → List Bytes
  | single .get _ => [Key.sequential "single-" 0]
  | single _ _ | batch _ _ | putOnly _ => []
  | randomGet population _ => Key.sequentialKeys "random-" population
  | mixed plan => Key.sequentialKeys "mixed-" plan.items

variable {ε : Type} [EntropySource ε] {workload : Workload} {iterations : Nat}

theorem length_of_mem_pairs {keys : List Bytes} {value : Bytes} {entry : Bytes × Bytes}
    (member : entry ∈ keys.map (·, value)) : entry.2.length = value.length := by
  obtain ⟨key, _, rfl⟩ := List.mem_map.mp member
  rfl

theorem sequential_mem_sequentialKeys (stem : String) {index count : Nat} (bound : index < count) :
    Key.sequential stem index ∈ Key.sequentialKeys stem count :=
  List.mem_map_of_mem (List.mem_range.mpr bound)

theorem isSized_puts {size : Nat} {keys : List Bytes} {entries : List (Bytes × Bytes)}
    (full : ∀ entry ∈ entries, entry.2.length = size) :
    ∀ request ∈ Request.puts entries, request.IsSized size keys := by
  intro request member
  obtain ⟨entry, listed, rfl⟩ := List.mem_map.mp member
  exact full entry listed

theorem length_of_mem_zip {keys : List Bytes} {length count : Nat} {generator : Generator ε}
    {entry : Bytes × Bytes}
    (member : entry ∈ keys.zip (Draw.replicate (Generator.value length) count generator).value) :
    entry.2.length = length :=
  Generator.length_of_mem_values (List.of_mem_zip member).2

/-- Every case that nothing sets back has a sized course. -/
theorem isSized_course (fine : workload.setback? = none) (iterations : Nat)
    (generator : Generator ε) :
    (workload.course iterations generator).value.IsSized workload.valueSize
      workload.gottenKeys := by
  cases workload with
  | single operation valueSize =>
      let value := (Generator.value valueSize generator).value
      have full : value.length = valueSize := Generator.length_value _ _
      have turn (iteration : Nat) :
          (singleRequest operation value iteration).IsSized valueSize
            (single operation valueSize).gottenKeys := by
        cases operation with
        | put | insert => exact full
        | get => exact List.mem_singleton_self _
        | contains => trivial
        | delete => exact List.not_mem_nil
      refine ⟨?_, fun entry member => (length_of_mem_pairs member).trans full, ?_⟩
      · intro key member
        cases operation with
        | get => exact member
        | put | insert | contains | delete => cases member
      · intro iteration request member
        obtain rfl := List.mem_singleton.mp member
        exact turn iteration
  | batch size valueSize =>
      refine ⟨?_, ?_, fun _ => isSized_puts fun _ => length_of_mem_zip⟩
      · intro key member
        cases member
      · intro entry member
        cases member
  | randomGet population valueSize =>
      have populated : population ≠ 0 := by
        rintro rfl
        cases fine
      refine ⟨?_, ?_, ?_⟩
      · intro key member
        change key ∈ ((Key.sequentialKeys "random-" population).map (·, _)).map Prod.fst
        rwa [map_fst_pairs]
      · intro entry member
        exact (length_of_mem_pairs member).trans (Generator.length_value _ _)
      · intro iteration request member
        obtain rfl := List.mem_singleton.mp member
        exact sequential_mem_sequentialKeys _ (Nat.mod_lt _ (Nat.pos_of_ne_zero populated))
  | mixed plan =>
      have items : plan.items ≠ 0 := by
        intro none
        simp [setback?, rejection?, none] at fine
      refine ⟨?_, ?_, ?_⟩
      · intro key member
        change key ∈ ((Key.sequentialKeys "mixed-" plan.items).map (·, _)).map Prod.fst
        rwa [map_fst_pairs]
      · intro entry member
        exact (length_of_mem_pairs member).trans MixedValues.length_populated
      · intro iteration request member
        obtain rfl := List.mem_singleton.mp member
        have key : mixedKey plan iteration ∈ (mixed plan).gottenKeys :=
          sequential_mem_sequentialKeys _ (Nat.mod_lt _ (Nat.pos_of_ne_zero items))
        rw [mixedRequest]
        cases operation : plan.mix.operation iteration with
        | get => exact key
        | put | insert => exact MixedValues.length_fresh iteration
        | contains => trivial
        | delete => exact absurd operation (Mix.operation_ne_delete iteration)
  | putOnly plan =>
      refine ⟨?_, ?_, fun iteration => isSized_puts ?_⟩
      · intro key member
        cases member
      · intro entry member
        cases member
      · intro entry member
        exact length_of_mem_zip (List.mem_of_getElem? (Option.mem_toList.mp member))

variable {μ : Type} {handle : MemoryEngine} {save : MemoryEngine.Save μ} {medium : μ}
  {clock : Nat → Nat} {generator : Generator ε} {measurement : Measurement}

/-- **The measured loop on a handle moves the size of the case for each value that its turns
move.** It makes the turns of all iterations. -/
theorem valueBytes_of_measured
    (measured : (endOn handle save medium clock generator workload iterations).1 =
      .ok measurement) :
    let engine := MemoryEngine.answering save
    let turns := (List.range iterations).flatMap (workload.course iterations generator).value.turn
    let loop := loopCalls engine clock workload iterations generator ((handle, medium), 0)
    workload.setback? = none ∧
    measurement.bytes = wrapped (iterations * workload.bytesPerIteration) ∧
    loop.map Prod.snd = turns ∧
    engine.valueBytes loop = workload.valueSize * (turns.map Request.values).sum := by
  intro engine turns loop
  obtain ⟨fine, bytes, populated, middle, after, -, puts, iterates⟩ := loop_of_measured measured
  have sized := isSized_course fine iterations generator
  have store : middle.1.store =
      handle.store.insertAll (workload.course iterations generator).value.populated := by
    rw [← Request.foldl_applied_puts]
    apply MemoryEngine.store_of_inTurn puts
    intro request member
    obtain ⟨entry, _, rfl⟩ := List.mem_map.mp member
    simp
  have held : middle.1.store.IsSized workload.valueSize workload.gottenKeys := by
    intro key member
    rw [store]
    exact Store.isSized_insertAll sized.populated handle.store key (sized.held key member)
  refine ⟨fine, bytes, iterates.requests_eq rfl, ?_⟩
  apply MemoryEngine.valueBytes_of_inTurn iterates held
  intro request member
  obtain ⟨iteration, _, turned⟩ := List.mem_flatMap.mp member
  exact sized.turns iteration request turned

end Workload

end StoreTrial
