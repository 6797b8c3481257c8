/-! # Looking up entries

The laws of finding the entry of a key in a list of keys with their values, where
the first entry of a key counts.
-/

namespace StoreTrial.Lookup

variable {κ ν : Type} [DecidableEq κ] [BEq κ] [LawfulBEq κ]

/-- The first entry answers for its own key, the others for every other key. -/
theorem lookup_entry_cons (sought key : κ) (value : ν) (rest : List (κ × ν)) :
    List.lookup sought ((key, value) :: rest) =
      if sought = key then some value else rest.lookup sought := by
  by_cases equal : sought = key
  · simp [equal]
  · simp [List.lookup_cons, beq_eq_false_iff_ne.mpr equal, equal]

/-- Among the entries with certain keys these keys are found as before, and no other ones. -/
theorem lookup_filter (keep : κ → Bool) (sought : κ) (entries : List (κ × ν)) :
    (entries.filter fun entry => keep entry.1).lookup sought =
      if keep sought then entries.lookup sought else none := by
  induction entries with
  | nil => simp
  | cons head rest ih =>
      obtain ⟨first, held⟩ := head
      rw [List.filter_cons]
      split
      · rename_i kept
        rw [lookup_entry_cons, lookup_entry_cons, ih]
        grind
      · rename_i dropped
        rw [ih, lookup_entry_cons]
        grind

/-- Without the entries of a key the key is not found, and every other key as
before. -/
theorem lookup_filter_ne (key sought : κ) (entries : List (κ × ν)) :
    (entries.filter fun entry => entry.1 != key).lookup sought =
      if sought = key then none else entries.lookup sought := by
  rw [lookup_filter (fun other => other != key)]
  by_cases same : sought = key
  · simp [same]
  · simp [same]

end StoreTrial.Lookup
