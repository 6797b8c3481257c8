import Mathlib.Algebra.GroupWithZero.Nat
import Mathlib.Data.List.Nodup
import StoreTrial.Proofs.NumberedKeys
import StoreTrial.Workload.Parallel

/-! # Units of workers

The keys of the units of work. The shares of the workers add up to the whole work
(`StoreTrial.sum_share`) and are as even as the work allows (`StoreTrial.shared_evenly`), and every
unit of every worker has a key of its own (`StoreTrial.ParallelCase.nodup_crewKeys`).
-/

namespace StoreTrial

namespace Key

theorem dash_notMem_digits (width number : Nat) : 45 ∉ digits width number := by
  intro member
  obtain ⟨c, padded, dash⟩ := List.mem_map.mp member
  have digit : 48 ≤ c.toNat ∧ c.toNat ≤ 57 :=
    Char.isDigit_iff_toNat.mp (Text.isDigit_of_mem_padded padded)
  have code : c.toNat % 256 = 45 := congrArg UInt8.toNat dash
  omega

/-- The key of a unit of work tells the worker and the unit, however long their numbers are. -/
theorem unit_inj {worker other index number : Nat} :
    unit worker index = unit other number ↔ worker = other ∧ index = number := by
  have dash : Bytes.ofText "-" = [45] := by decide
  rw [unit, unit, dash, List.append_assoc, List.append_assoc, List.append_assoc,
    List.append_assoc, List.append_right_inj, List.singleton_append, List.singleton_append,
    List.append_cons_inj_of_notMem (dash_notMem_digits _ _) (dash_notMem_digits _ _), digits_inj,
    digits_inj]
  simp only [true_and]

end Key

/-- The first workers take a unit each of what is left over, as far as it goes. -/
theorem sum_share_range (workers total count : Nat) :
    ((List.range count).map (share · workers total)).sum =
      count * (total / workers) + min count (total % workers) := by
  induction count with
  | zero => simp
  | succ count ih =>
      rw [List.range_succ, List.map_append, List.sum_append, ih, List.map_singleton,
        List.sum_singleton, share, Nat.succ_mul]
      split <;> omega

/-- **The shares of the workers add up to the whole work.** -/
theorem sum_share {workers : Nat} (present : 0 < workers) (total : Nat) :
    ((List.range workers).map (share · workers total)).sum = total := by
  rw [sum_share_range, Nat.min_eq_right (Nat.le_of_lt (Nat.mod_lt total present)),
    Nat.div_add_mod]

theorem div_le_share (worker workers total : Nat) :
    total / workers ≤ share worker workers total := by
  rw [share]
  split
  · exact Nat.le_succ _
  · exact Nat.le_refl _

theorem share_le_div_succ (worker workers total : Nat) :
    share worker workers total ≤ total / workers + 1 := by
  rw [share]
  split
  · exact Nat.le_refl _
  · exact Nat.le_succ _

/-- The workers that take a unit of what is left over come before the others. -/
theorem share_le_share {worker later : Nat} (order : worker ≤ later) (workers total : Nat) :
    share later workers total ≤ share worker workers total := by
  by_cases extra : later < total % workers
  · have before : worker < total % workers := Nat.lt_of_le_of_lt order extra
    exact Nat.le_of_eq ((if_pos extra).trans (if_pos before).symm)
  · calc share later workers total = total / workers := if_neg extra
      _ ≤ share worker workers total := div_le_share worker workers total

/-- **Work is shared out evenly.** Every worker is told its units, as long as there are workers at
all. The units of all workers are the whole work, no worker has more than one before it, and any two
have the same number of units or numbers next to each other. -/
theorem shared_evenly {workers : Nat} (present : 0 < workers) (total : Nat) :
    ∃ units : Nat → Nat, (∀ worker, shareOf worker workers total = .ok (units worker)) ∧
      ((List.range workers).map units).sum = total ∧
      (∀ worker later, worker ≤ later → units later ≤ units worker) ∧
      ∀ worker other, units worker ≤ units other + 1 := by
  refine ⟨(share · workers total), fun worker => ?_, sum_share present total, ?_, ?_⟩
  · exact if_neg (Nat.ne_of_gt present)
  · exact fun worker later order => share_le_share order workers total
  · intro worker other
    calc share worker workers total ≤ total / workers + 1 := share_le_div_succ ..
      _ ≤ share other workers total + 1 := Nat.succ_le_succ (div_le_share ..)

/-- Two of four workers have a unit more than the others. -/
theorem shared_evenly_among_four :
    0 < 4 ∧ ∃ units : Nat → Nat, (∀ worker, shareOf worker 4 10 = .ok (units worker)) ∧
      (List.range 4).map units = [3, 3, 2, 2] ∧ ((List.range 4).map units).sum = 10 := by
  obtain ⟨units, told, sum, -⟩ := @shared_evenly 4 (by decide) 10
  have shared : units = (share · 4 10) := funext fun worker => (Except.ok.inj (told worker)).symm
  refine ⟨by decide, units, told, ?_, sum⟩
  rw [shared]
  decide

namespace ParallelCase

/-- The keys of the units of a worker. -/
def unitKeys (worker units : Nat) : List Bytes := (List.range units).map (Key.unit worker)

/-- The keys of the share of a worker. -/
def shareKeys (workers total worker : Nat) : List Bytes :=
  unitKeys worker (share worker workers total)

/-- The keys of all units. -/
def crewKeys (workers total : Nat) : List Bytes :=
  (List.range workers).flatMap (shareKeys workers total)

theorem mem_unitKeys {worker units : Nat} {key : Bytes} :
    key ∈ unitKeys worker units ↔ ∃ index < units, Key.unit worker index = key := by
  simp only [unitKeys, List.mem_map, List.mem_range]

theorem mem_crewKeys {workers total : Nat} {key : Bytes} :
    key ∈ crewKeys workers total ↔
      ∃ worker < workers, key ∈ shareKeys workers total worker := by
  simp only [crewKeys, List.mem_flatMap, List.mem_range]

theorem nodup_unitKeys (worker units : Nat) : (unitKeys worker units).Nodup := by
  apply List.Nodup.map _ List.nodup_range
  intro index number same
  exact (Key.unit_inj.mp same).2

theorem nodup_shareKeys (workers total worker : Nat) : (shareKeys workers total worker).Nodup :=
  nodup_unitKeys _ _

/-- A key belongs to one worker. -/
theorem worker_unique {workers total worker other : Nat} {key : Bytes}
    (own : key ∈ shareKeys workers total worker) (shared : key ∈ shareKeys workers total other) :
    worker = other := by
  obtain ⟨index, _, rfl⟩ := mem_unitKeys.mp own
  obtain ⟨number, _, same⟩ := mem_unitKeys.mp shared
  exact (Key.unit_inj.mp same).1.symm

/-- **All units have different keys.** -/
theorem nodup_crewKeys (workers total : Nat) : (crewKeys workers total).Nodup := by
  rw [crewKeys, List.nodup_flatMap]
  refine ⟨fun worker _ => nodup_shareKeys workers total worker, ?_⟩
  apply List.nodup_range.imp
  intro worker other apart key own shared
  exact apart (worker_unique own shared)

theorem length_crewKeys {workers : Nat} (present : 0 < workers) (total : Nat) :
    (crewKeys workers total).length = total := by
  simp only [crewKeys, shareKeys, unitKeys, List.length_flatMap, List.length_map, List.length_range]
  exact sum_share present total

end ParallelCase

end StoreTrial
