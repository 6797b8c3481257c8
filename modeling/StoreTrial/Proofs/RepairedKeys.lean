import StoreTrial.Proofs.DistinctPayloads
import StoreTrial.Proofs.PayloadFills

/-! # Keys changed until they are free

How long keys that are asked for together are changed. A key that is drawn as the number `index` is
changed with one number after another until it is none of the `index` keys before it, and this ends
after `2 * index + 1` changes at the latest (`StoreTrial.Generator.repairs_end`). The keys may have
any length, also one with no room for the digits of the numbers.
-/

namespace StoreTrial

theorem Store.contains_insert (store : Store) (key value sought : Bytes) :
    (store.insert key value).contains sought = (sought == key || store.contains sought) := by
  rw [contains, get?_insert]
  by_cases same : sought = key
  · rw [if_pos same, same, beq_self_eq_true]
    rfl
  · rw [if_neg same, beq_eq_false_iff_ne.mpr same]
    rfl

namespace Key

variable {taken : Bytes → Bool} {fuel salt changes : Nat} {key : Bytes}

/-- Changing a key until it is free ends after so many changes: up to then every key was taken, and
the one that they lead to is free. -/
structure EndsAfter (taken : Bytes → Bool) (salt : Nat) (key : Bytes) (changes : Nat) : Prop where
  before : ∀ fewer < changes, taken (changed key salt fewer) = true
  free : taken (changed key salt changes) = false

theorem EndsAfter.of_free (free : taken key = false) : EndsAfter taken salt key 0 where
  before _ early := absurd early (Nat.not_lt_zero _)
  free := free

theorem EndsAfter.of_disambiguate (first : taken key = true)
    (ends : EndsAfter taken (salt + 1) (disambiguate key salt) changes) :
    EndsAfter taken salt key (changes + 1) where
  before fewer early := by
    cases fewer with
    | zero => exact first
    | succ fewer =>
        rw [← changed_disambiguate]
        exact ends.before fewer (Nat.lt_of_succ_lt_succ early)
  free := by
    rw [← changed_disambiguate]
    exact ends.free

/-- Changing with fuel that does not give out is changing until the key is free. -/
theorem endsAfter_of_resolve (free : taken (resolve taken fuel salt key) = false) :
    ∃ changes ≤ fuel, EndsAfter taken salt key changes ∧
      resolve taken fuel salt key = changed key salt changes := by
  induction fuel generalizing salt key with
  | zero => exact ⟨0, Nat.le_refl 0, .of_free free, rfl⟩
  | succ fuel ih =>
      rw [resolve] at free ⊢
      by_cases first : taken key = true
      · rw [if_pos first] at free ⊢
        obtain ⟨changes, bound, ends, result⟩ := ih free
        refine ⟨changes + 1, Nat.succ_le_succ bound, .of_disambiguate first ends, ?_⟩
        rw [result, changed_disambiguate]
      · rw [if_neg first] at free ⊢
        exact ⟨0, Nat.zero_le _, .of_free free, rfl⟩

/-- A key is free of earlier ones after one change more than twice their number at the latest. -/
theorem exists_endsAfter (earlier : List Bytes) (key : Bytes) :
    ∃ changes ≤ 2 * earlier.length + 1, EndsAfter earlier.contains earlier.length key changes ∧
      free earlier.contains earlier.length key = changed key earlier.length changes :=
  endsAfter_of_resolve (not_taken_free (fun _ => List.contains_iff_mem.mp) (Nat.le_refl _) key)

/-- Each of some keys is a drawn key, changed until it is none of the keys before it. This takes one
change more than twice the number of these keys at most. -/
structure MadeFree (drawn keys : List Bytes) : Prop where
  length : keys.length = drawn.length
  ends : ∀ (index : Nat) (key : Bytes), drawn[index]? = some key →
    ∃ changes ≤ 2 * index + 1, EndsAfter (keys.take index).contains index key changes ∧
      keys[index]? = some (changed key index changes)

theorem MadeFree.nodup {drawn keys : List Bytes} (made : MadeFree drawn keys) : keys.Nodup := by
  rw [List.nodup_iff_getElem?_ne_getElem?]
  intro earlier later before bound same
  obtain ⟨key, found⟩ : ∃ key, drawn[later]? = some key :=
    ⟨_, List.getElem?_eq_getElem (made.length ▸ bound)⟩
  obtain ⟨changes, -, ends, result⟩ := made.ends later key found
  have member : changed key later changes ∈ keys.take later := by
    apply List.mem_of_getElem? (i := earlier)
    rw [List.getElem?_take_of_lt before, same, result]
  have absent := ends.free
  rw [List.contains_eq_mem, decide_eq_false_iff_not] at absent
  exact absent member

theorem length_allFree (index : Nat) (taken : Std.ExtTreeSet Bytes compare) (drawn : List Bytes) :
    (allFree index taken drawn).length = drawn.length := by
  induction drawn generalizing index taken with
  | nil => rfl
  | cons key keys ih => exact congrArg Nat.succ (ih _ _)

/-- Keys that are made free of earlier ones one after another, as they are listed behind these. -/
theorem ends_allFree {earlier : List Bytes} {taken : Std.ExtTreeSet Bytes compare}
    (listed : taken.contains = earlier.contains) {drawn : List Bytes} {place : Nat}
    (found : drawn[place]? = some key) :
    let keys := earlier ++ allFree earlier.length taken drawn
    let index := earlier.length + place
    ∃ changes ≤ 2 * index + 1, EndsAfter (keys.take index).contains index key changes ∧
      keys[index]? = some (changed key index changes) := by
  -- What is made of the first drawn key is one of the earlier keys for the rest.
  induction drawn generalizing earlier taken place with
  | nil => simp at found
  | cons first rest ih =>
      rw [allFree, listed]
      cases place with
      | zero =>
          obtain rfl : first = key := Option.some.inj found
          obtain ⟨changes, bound, ends, result⟩ := exists_endsAfter earlier first
          exact ⟨changes, bound, by simpa using ends, by simp [result]⟩
      | succ place =>
          let final := free earlier.contains earlier.length first
          have grown : (taken.insert final).contains = (earlier ++ [final]).contains := by
            funext key
            rw [Std.ExtTreeSet.contains_insert, listed, Bool.eq_iff_iff]
            simp only [Bool.or_eq_true, beq_iff_eq, Std.compare_eq_iff_eq, List.contains_iff_mem,
              List.mem_append, List.mem_singleton, @eq_comm _ final]
            exact or_comm
          have later := ih grown found
          rw [List.length_append, List.length_singleton, List.append_assoc, List.singleton_append,
            Nat.add_assoc, Nat.add_comm 1 place] at later
          exact later

theorem madeFree_allFree (drawn : List Bytes) : MadeFree drawn (allFree 0 ∅ drawn) where
  length := length_allFree 0 ∅ drawn
  ends index key found := by
    have none : (∅ : Std.ExtTreeSet Bytes compare).contains = ([] : List Bytes).contains :=
      funext fun key => Std.ExtTreeSet.contains_empty
    have ends := ends_allFree none found
    rw [List.length_nil, List.nil_append, Nat.zero_add] at ends
    exact ends

/-- Pairs whose keys are made free are put in under the keys that are made free of each other. -/
theorem insertFree_eq_insertAll {index : Nat} {pairs : Store} {taken : Std.ExtTreeSet Bytes compare}
    (listed : pairs.contains = taken.contains) (drawn : List (Bytes × Bytes)) :
    Store.insertFree index pairs drawn =
      pairs.insertAll ((allFree index taken (drawn.map Prod.fst)).zip (drawn.map Prod.snd)) := by
  induction drawn generalizing index pairs taken with
  | nil => rfl
  | cons entry rest ih =>
      let final := free taken.contains index entry.1
      have grown : (pairs.insert final entry.2).contains = (taken.insert final).contains := by
        funext key
        rw [Store.contains_insert, Std.ExtTreeSet.contains_insert, listed, Bool.eq_iff_iff]
        simp only [Bool.or_eq_true, beq_iff_eq, Std.compare_eq_iff_eq, @eq_comm _ final]
      rw [Store.insertFree, listed, ih grown]
      rfl

end Key

namespace Generator

variable {ε : Type} [EntropySource ε]

/-- **Changing keys until they are free comes to an end.** Of the keys that are asked for together,
the one with the number `index` is the drawn one, whatever the source gave, changed until it is none
of those before it, which takes `2 * index + 1` changes at most (`Key.MadeFree`). So there are as
many different keys as were asked for, and the keys of pairs are made likewise. They may be of any
length. -/
theorem repairs_end (count length : Nat) (generator : Generator ε) :
    (let drawn := (Draw.replicate (key length) count generator).value
      let keys := (uniqueKeys count length generator).value
      Key.MadeFree drawn keys ∧ keys.Nodup ∧ keys.length = count) ∧
    let drawn := (Draw.replicate pair count generator).value
    let made := (pairs count generator).value
    ∃ keys, Key.MadeFree (drawn.map Prod.fst) keys ∧ keys.Nodup ∧ keys.length = count ∧
      made = Store.empty.insertAll (keys.zip (drawn.map Prod.snd)) ∧ made.size = count := by
  constructor
  · intro drawn keys
    have all : keys = Key.allFree 0 ∅ drawn :=
      congrArg (fun draw => (draw generator).value) (freeKeys_eq_map length count 0 ∅)
    have made : Key.MadeFree drawn keys := all ▸ Key.madeFree_allFree drawn
    exact ⟨made, made.nodup, made.length.trans (Draw.length_replicate _ count generator)⟩
  · intro drawn made
    have paired : made = Store.insertFree 0 .empty drawn :=
      congrArg (fun draw => (draw generator).value) (addPairs_eq_map count 0 .empty)
    have none : Store.empty.contains = (∅ : Std.ExtTreeSet Bytes compare).contains :=
      funext fun key => Std.ExtTreeSet.contains_empty.symm
    have free := Key.madeFree_allFree (drawn.map Prod.fst)
    refine ⟨_, free, free.nodup, ?_, ?_, ?_⟩
    · rw [free.length, List.length_map, Draw.length_replicate]
    · rw [paired, Key.insertFree_eq_insertAll none]
    · have size : made.size = Store.empty.size + count := size_addPairs (Nat.le_refl 0)
      exact size.trans (Nat.zero_add count)

/-- A source that gives the key of the first change every time: the second key is changed into it
and has to be changed once more. Keys without letters get longer. -/
theorem repairs_end_changed_again :
    let generator : Generator Source :=
      { source := .planned #[.pattern #[52, 52, 52, 52, 52, 53]] 0, seed := 0 }
    let drawn := (Draw.replicate (key 6) 3 generator).value
    let keys := (uniqueKeys 3 6 generator).value
    let empty := (uniqueKeys 3 0 generator).value
    drawn[1]? = some (Bytes.ofText "000001") ∧
      (∃ changes ≤ 2 * 1 + 1,
        Key.EndsAfter (keys.take 1).contains 1 (Bytes.ofText "000001") changes ∧
          keys[1]? = some (Key.changed (Bytes.ofText "000001") 1 changes)) ∧
      keys[1]? = some (Bytes.ofText "000002") ∧
      empty.Nodup ∧ empty = [[], Bytes.ofText "000001", Bytes.ofText "000002"] := by
  intro generator drawn keys empty
  have second : drawn[1]? = some (Bytes.ofText "000001") := by decide
  obtain ⟨⟨made, -, -⟩, -⟩ := repairs_end 3 6 generator
  obtain ⟨⟨-, different, -⟩, -⟩ := repairs_end 3 0 generator
  exact ⟨second, made.ends 1 _ second, by decide, different, by decide⟩

end Generator

end StoreTrial
