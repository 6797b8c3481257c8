import StoreTrial.Entropy.Source
import StoreTrial.Proofs.FreeKeys

/-! # Payloads that differ

Keys that are asked for together are made free one after another, each of those before it. So they
differ, and there are as many as were asked for, whatever the entropy source does
(`StoreTrial.Generator.nodup_freeKeys`); they have the asked length as long as the numbers that
tell them apart fit in it (`StoreTrial.Generator.isPayload_freeKeys`). Pairs have such keys.
-/

namespace StoreTrial

namespace Store

theorem size_insert_of_not_contains {store : Store} {key : Bytes}
    (absent : store.contains key = false) (value : Bytes) :
    (store.insert key value).size = store.size + 1 := by
  have missing : key ∉ store.table := by
    rw [Std.ExtTreeMap.mem_iff_isSome_getElem?, Bool.not_eq_true]
    exact absent
  exact (Std.ExtTreeMap.size_insert).trans (if_neg missing)

/-- The keys of a store are listed with its entries. -/
theorem mem_keys_of_contains {store : Store} {key : Bytes} (present : store.contains key = true) :
    key ∈ store.entries.map Prod.fst := by
  obtain ⟨value, found⟩ := Option.isSome_iff_exists.mp present
  exact List.mem_map.mpr ⟨(key, value), mem_entries_iff.mpr found, rfl⟩

theorem mem_entries_insert {store : Store} {key value : Bytes} {entry : Bytes × Bytes}
    (member : entry ∈ (store.insert key value).entries) :
    entry = (key, value) ∨ entry ∈ store.entries := by
  have found := mem_entries_iff.mp member
  rw [get?_insert] at found
  split at found
  · rename_i same
    exact .inl (Prod.ext same (Option.some.inj found).symm)
  · exact .inr (mem_entries_iff.mpr found)

end Store

namespace Generator

variable {ε : Type} [EntropySource ε] {length index : Nat} {generator : Generator ε}

theorem isPayload_freeKey {taken : Bytes → Bool} (wide : Key.sequentialWidth ≤ length)
    (room : 3 * index < 10 ^ length) :
    Alphabet.key.IsPayload length (freeKey length index taken generator).value :=
  Key.isPayload_free (isPayload_key length generator) wide room

section Keys

variable {taken : Std.ExtTreeSet Bytes compare}

theorem not_taken_freeKey (few : taken.size ≤ index) :
    taken.contains (freeKey length index taken.contains generator).value = false := by
  have listed (key : Bytes) (held : taken.contains key = true) : key ∈ taken.toList :=
    Std.ExtTreeSet.mem_toList.mpr (Std.ExtTreeSet.contains_iff_mem.mp held)
  have length : taken.toList.length = taken.size := Std.ExtTreeSet.length_toList
  exact Key.not_taken_free listed (length ▸ few) _

theorem freeKeys_succ (length count index : Nat) (taken : Std.ExtTreeSet Bytes compare)
    (generator : Generator ε) :
    let first := freeKey length index taken.contains generator
    (freeKeys length (count + 1) index taken generator).value =
      first.value ::
        (freeKeys length count (index + 1) (taken.insert first.value) first.generator).value := rfl

theorem length_freeKeys (length count index : Nat) (taken : Std.ExtTreeSet Bytes compare)
    (generator : Generator ε) :
    (freeKeys length count index taken generator).value.length = count := by
  induction count generalizing index taken generator with
  | zero => rfl
  | succ count ih => rw [freeKeys_succ, List.length_cons, ih]

/-- Free keys differ from each other and from the taken ones. -/
theorem nodup_freeKeys {count : Nat} (few : taken.size ≤ index) :
    (freeKeys length count index taken generator).value.Nodup ∧
      ∀ key ∈ (freeKeys length count index taken generator).value, taken.contains key = false := by
  induction count generalizing index taken generator with
  | zero => exact ⟨List.nodup_nil, fun key member => absurd member List.not_mem_nil⟩
  | succ count ih =>
      let first := freeKey length index taken.contains generator
      have grown : (taken.insert first.value).size ≤ index + 1 :=
        Nat.le_trans Std.ExtTreeSet.size_insert_le (Nat.succ_le_succ few)
      obtain ⟨different, untaken⟩ := @ih _ first.generator _ grown
      have other (key : Bytes)
          (member : key ∈ (freeKeys length count (index + 1) (taken.insert first.value)
            first.generator).value) : first.value ≠ key ∧ taken.contains key = false := by
        simpa [Std.ExtTreeSet.contains_insert] using untaken key member
      rw [freeKeys_succ]
      constructor
      · exact List.nodup_cons.mpr ⟨fun member => (other _ member).1 rfl, different⟩
      · intro key member
        rcases List.mem_cons.mp member with rfl | later
        · exact not_taken_freeKey few
        · exact (other key later).2

theorem isPayload_freeKeys {count : Nat} (wide : Key.sequentialWidth ≤ length)
    (room : 3 * (index + count) < 10 ^ length) :
    ∀ key ∈ (freeKeys length count index taken generator).value,
      Alphabet.key.IsPayload length key := by
  induction count generalizing index taken generator with
  | zero => exact fun key member => absurd member List.not_mem_nil
  | succ count ih =>
      intro key member
      rw [freeKeys_succ] at member
      rcases List.mem_cons.mp member with rfl | later
      · exact isPayload_freeKey wide (by omega)
      · exact ih (by omega) key later

end Keys

section Pairs

variable {made : Store}

theorem not_taken_freeKey_of_size (few : made.size ≤ index) :
    made.contains (freeKey length index made.contains generator).value = false := by
  have length : (made.entries.map Prod.fst).length = made.size := by
    rw [List.length_map, Store.length_entries]
  exact Key.not_taken_free (fun _ => Store.mem_keys_of_contains) (length ▸ few) _

theorem addPairs_succ (count index : Nat) (made : Store) (generator : Generator ε) :
    let first := freeKey pairKeyLength index made.contains generator
    let second := value pairValueLength first.generator
    (addPairs (count + 1) index made generator).value =
      (addPairs count (index + 1) (made.insert first.value second.value)
        second.generator).value := rfl

theorem size_addPairs {count : Nat} (few : made.size ≤ index) :
    (addPairs count index made generator).value.size = made.size + count := by
  induction count generalizing index made generator with
  | zero => rfl
  | succ count ih =>
      let first := freeKey pairKeyLength index made.contains generator
      have free : made.contains first.value = false := not_taken_freeKey_of_size few
      have grown := Store.size_insert_of_not_contains free
      rw [addPairs_succ, ih (by rw [grown]; omega), grown]
      omega

/-- A key and a value of the lengths that pairs have. -/
def IsPair (entry : Bytes × Bytes) : Prop :=
  Alphabet.key.IsPayload pairKeyLength entry.1 ∧ Alphabet.value.IsPayload pairValueLength entry.2

theorem isPair_addPairs {count : Nat} (fine : ∀ entry ∈ made.entries, IsPair entry)
    (room : 3 * (index + count) < 10 ^ pairKeyLength) :
    ∀ entry ∈ (addPairs count index made generator).value.entries, IsPair entry := by
  induction count generalizing index made generator with
  | zero => exact fine
  | succ count ih =>
      rw [addPairs_succ]
      apply ih _ (by omega)
      intro entry member
      rcases Store.mem_entries_insert member with rfl | before
      · exact ⟨isPayload_freeKey (by decide) (by omega), isPayload_value _ _⟩
      · exact fine entry before

end Pairs

/-- **Keys that are asked for together differ, and are as many and as long as was asked.** So are
the keys of pairs. The entropy source may give any bytes and fail at any time. -/
theorem distinct_payloads (generator : Generator ε) :
    (∀ count length, 6 ≤ length → 3 * count < 10 ^ length →
      let keys := (uniqueKeys count length generator).value
      keys.length = count ∧ keys.Nodup ∧ ∀ key ∈ keys, Alphabet.key.IsPayload length key) ∧
    ∀ count ≤ 10 ^ 15,
      let entries := (pairs count generator).value.entries
      entries.length = count ∧
        ∀ entry ∈ entries,
          Alphabet.key.IsPayload 16 entry.1 ∧ Alphabet.value.IsPayload 64 entry.2 := by
  constructor
  · intro count length wide room keys
    have different : keys.Nodup := (nodup_freeKeys (Nat.le_refl 0)).1
    have letters : ∀ key ∈ keys, Alphabet.key.IsPayload length key :=
      isPayload_freeKeys wide (by rwa [Nat.zero_add])
    exact ⟨length_freeKeys length count 0 ∅ generator, different, letters⟩
  · intro count bound entries
    have size : (pairs count generator).value.size = 0 + count := size_addPairs (Nat.le_refl 0)
    have room : 3 * (0 + count) < 10 ^ pairKeyLength := by
      rw [pairKeyLength]
      omega
    have none : ∀ entry ∈ Store.empty.entries, IsPair entry :=
      fun entry member => absurd (Store.mem_entries_iff.mp member) (by simp)
    have fine : ∀ entry ∈ entries, IsPair entry := isPair_addPairs none room
    exact ⟨by rw [Store.length_entries, size, Nat.zero_add], fine⟩

/-- A source that repeats a key ending in the digits of the first change: the second key has to be
changed twice. -/
theorem distinct_payloads_changed_twice :
    let generator : Generator Source :=
      { source := .planned #[.pattern #[52, 52, 52, 52, 52, 53], .refusal (.entropy "gone")] 0
        seed := 0 }
    let keys := (uniqueKeys 3 6 generator).value
    let entries := (pairs 2 generator).value.entries
    (6 ≤ 6 ∧ 3 * 3 < 10 ^ 6 ∧ 2 ≤ 10 ^ 15) ∧ keys.Nodup ∧ keys.length = 3 ∧
      keys = [Bytes.ofText "000001", Bytes.ofText "abcdef", Bytes.ofText "000002"] ∧
      entries.length = 2 := by
  intro generator keys entries
  obtain ⟨unique, paired⟩ := distinct_payloads generator
  obtain ⟨length, different, _⟩ := unique 3 6 (by decide) (by decide)
  obtain ⟨size, _⟩ := paired 2 (by decide)
  exact ⟨by decide, different, length, by decide +kernel, size⟩

end Generator

end StoreTrial
