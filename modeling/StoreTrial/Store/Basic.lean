import StoreTrial.Bytes.Basic
import Std.Data.ExtTreeMap

/-! # Stores

Finite maps from keys to values. Two stores with the same answers are equal
(`Store.ext_get?`), and the entries of a store come in the order of their keys.
-/

namespace StoreTrial

/-- A finite map from keys to values. -/
structure Store where
  table : Std.ExtTreeMap Bytes Bytes compare
  deriving DecidableEq

namespace Store

/-- The store without entries. -/
def empty : Store := ⟨∅⟩

/-- The value under a key. -/
def get? (store : Store) (key : Bytes) : Option Bytes := store.table[key]?

/-- Whether a key is present. -/
def contains (store : Store) (key : Bytes) : Bool := (store.get? key).isSome

/-- The number of keys. -/
def size (store : Store) : Nat := store.table.size

/-- The keys with their values, in the order of the keys. -/
def entries (store : Store) : List (Bytes × Bytes) := store.table.toList

/-- The store with a value under a key. -/
def insert (store : Store) (key value : Bytes) : Store := ⟨store.table.insert key value⟩

/-- The store without a key. -/
def erase (store : Store) (key : Bytes) : Store := ⟨store.table.erase key⟩

/-- The store after the given entries are put in one after another. -/
def insertAll (store : Store) (entries : List (Bytes × Bytes)) : Store :=
  entries.foldl (fun store entry => store.insert entry.1 entry.2) store

@[simp]
theorem get?_empty (key : Bytes) : empty.get? key = none := Std.ExtTreeMap.getElem?_empty

/-- After an insertion the new key holds the new value, and every other key what
it held before. -/
theorem get?_insert (store : Store) (key value sought : Bytes) :
    (store.insert key value).get? sought =
      if sought = key then some value else store.get? sought := by
  simp only [get?, insert, Std.ExtTreeMap.getElem?_insert, Std.compare_eq_iff_eq,
    @eq_comm _ key sought]

/-- After an erasure the key is absent, and every other key holds what it held
before. -/
theorem get?_erase (store : Store) (key sought : Bytes) :
    (store.erase key).get? sought = if sought = key then none else store.get? sought := by
  simp only [get?, erase, Std.ExtTreeMap.getElem?_erase, Std.compare_eq_iff_eq,
    @eq_comm _ key sought]

/-- The held entries are the keys that are found with their values. -/
theorem mem_entries_iff {store : Store} {key value : Bytes} :
    (key, value) ∈ store.entries ↔ store.get? key = some value :=
  Std.ExtTreeMap.mem_toList_iff_getElem?_eq_some

/-- Each key has its place among the entries: no key comes twice, and a smaller
one comes first. -/
theorem pairwise_entries (store : Store) :
    store.entries.Pairwise fun left right => compare left.1 right.1 = .lt :=
  Std.ExtTreeMap.ordered_keys_toList

/-- As many entries are held as there are keys. -/
theorem length_entries (store : Store) : store.entries.length = store.size :=
  Std.ExtTreeMap.length_toList

/-- Two stores with the same answers are equal. -/
theorem ext_get? {left right : Store} (same : ∀ key, left.get? key = right.get? key) :
    left = right := by
  obtain ⟨leftTable⟩ := left
  obtain ⟨rightTable⟩ := right
  exact congrArg Store.mk (Std.ExtTreeMap.ext_getElem? same)

end Store

end StoreTrial
