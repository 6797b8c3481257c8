import Mathlib.Data.Int.CardIntervalMod
import Mathlib.Tactic.FieldSimp
import Mathlib.Tactic.Linarith
import StoreTrial.Proofs.MixedOverwrites

/-! # Shares of operations

A mix repeats its cycle, and no operation stands twice in it, so an operation gets the iterations
of one remainder or none at all. Any row of iterations therefore holds as many of an operation as
its ratio says, up to less than one for the cycles that the ends of the row cut
(`StoreTrial.Mix.routed_by_ratio`).
-/

namespace StoreTrial

/-- The value as a fraction. -/
def Binary64.fraction (x : Binary64) : ℚ := x.quotient.1 / x.quotient.2

namespace Mix

/-- The ratio of an operation as a fraction: how often it stands in the cycle, over the length of
the cycle. -/
def exactRatio (mix : Mix) (operation : Operation) : ℚ :=
  mix.occurrences operation / mix.cycle.length

/-- The iterations among those in a row that go to an operation. -/
def routed (mix : Mix) (operation : Operation) (start count : Nat) : Finset Nat :=
  {iteration ∈ Finset.Ico start (start + count) | mix.operation iteration = operation}

variable {mix : Mix} {operation : Operation}

theorem operation_mem_cycle (iteration : Nat) : mix.operation iteration ∈ mix.cycle :=
  List.getElem_mem _

theorem exists_operation_eq (present : operation ∈ mix.cycle) :
    ∃ place, mix.operation place = operation := by
  obtain ⟨place, bound, rfl⟩ := List.getElem_of_mem present
  refine ⟨place, ?_⟩
  simp only [Mix.operation, Nat.mod_eq_of_lt bound]

theorem exactRatio_of_mem (present : operation ∈ mix.cycle) :
    mix.exactRatio operation = 1 / mix.cycle.length := by
  rw [exactRatio, occurrences, List.count_eq_one_of_mem mix.nodup_cycle present, Nat.cast_one]

theorem exactRatio_of_notMem (absent : operation ∉ mix.cycle) : mix.exactRatio operation = 0 := by
  rw [exactRatio, occurrences, List.count_eq_zero_of_not_mem absent, Nat.cast_zero, zero_div]

/-- An operation of the cycle gets the iterations with the remainder of its place. -/
theorem routed_operation (place start count : Nat) :
    mix.routed (mix.operation place) start count =
      {iteration ∈ Finset.Ico start (start + count) |
        iteration ≡ place [MOD mix.cycle.length]} :=
  Finset.filter_congr fun _ _ => operation_eq_iff

/-- The number of iterations that an operation gets is what rounding up makes of its part of them,
wherever the rounds of the cycle begin. -/
theorem exists_card_routed_eq (mix : Mix) (operation : Operation) (start count : Nat) :
    ∃ phase : ℚ, ((mix.routed operation start count).card : ℤ) =
      ⌈phase + count * mix.exactRatio operation⌉ - ⌈phase⌉ := by
  by_cases present : operation ∈ mix.cycle
  · obtain ⟨place, rfl⟩ := exists_operation_eq present
    have part : (((start + count : Nat) : ℚ) - place) / mix.cycle.length =
        (start - place) / mix.cycle.length + count * (1 / mix.cycle.length) := by
      rw [Nat.cast_add]
      ring
    have onward : ((start : ℚ) - place) / mix.cycle.length ≤
        (start - place) / mix.cycle.length + count * (1 / mix.cycle.length) :=
      le_add_of_nonneg_right (by positivity)
    refine ⟨(start - place) / mix.cycle.length, ?_⟩
    rw [routed_operation, Nat.Ico_filter_modEq_card _ _ mix.length_cycle_pos, part,
      exactRatio_of_mem present, max_eq_left (sub_nonneg.mpr (Int.ceil_mono onward))]
  · have none : mix.routed operation start count = ∅ := by
      apply Finset.filter_false_of_mem
      rintro iteration _ rfl
      exact present (operation_mem_cycle iteration)
    refine ⟨0, ?_⟩
    rw [none, exactRatio_of_notMem present, mul_zero, add_zero, sub_self, Finset.card_empty,
      Nat.cast_zero]

theorem abs_ceil_add_sub_lt_one (phase part : ℚ) :
    |((⌈phase + part⌉ - ⌈phase⌉ : ℤ) : ℚ) - part| < 1 := by
  have low := Int.le_ceil phase
  have high := Int.ceil_lt_add_one phase
  have lowEnd := Int.le_ceil (phase + part)
  have highEnd := Int.ceil_lt_add_one (phase + part)
  rw [Int.cast_sub, abs_lt]
  constructor <;> linarith

/-- The ratio that a mix reports is exact. -/
theorem fraction_ratio (mix : Mix) (operation : Operation) :
    (mix.ratio operation).fraction = mix.exactRatio operation := by
  have exact : (mix.ratio operation).quotient.1 * mix.cycle.length =
        mix.occurrences operation * (mix.ratio operation).quotient.2 ∧
      (mix.ratio operation).quotient.2 ≠ 0 := by
    cases mix <;> cases operation <;> decide
  have length := Nat.ne_of_gt mix.length_cycle_pos
  rw [Binary64.fraction, exactRatio,
    div_eq_div_iff (Nat.cast_ne_zero.mpr exact.2) (Nat.cast_ne_zero.mpr length)]
  exact_mod_cast exact.1

/-- **Of any iterations in a row an operation gets its part by the ratio, up to less than one.** It
gets exactly that part of whole cycles, wherever they start; and the ratio that is reported is no
rounded one. -/
theorem routed_by_ratio (mix : Mix) (operation : Operation) (start count : Nat) :
    let routed : ℚ := (mix.routed operation start count).card
    |routed - count * mix.exactRatio operation| < 1 ∧
      (mix.cycle.length ∣ count → routed = count * mix.exactRatio operation) ∧
      (mix.ratio operation).fraction = mix.exactRatio operation := by
  intro routed
  obtain ⟨phase, card⟩ := mix.exists_card_routed_eq operation start count
  have routed_eq : routed =
      ((⌈phase + count * mix.exactRatio operation⌉ - ⌈phase⌉ : ℤ) : ℚ) := by
    rw [← card]
    rfl
  refine ⟨?_, ?_, fraction_ratio mix operation⟩
  · rw [routed_eq]
    exact abs_ceil_add_sub_lt_one phase _
  · rintro ⟨cycles, rfl⟩
    have whole : ((mix.cycle.length * cycles : Nat) : ℚ) * mix.exactRatio operation =
        ((cycles * mix.occurrences operation : Nat) : ℚ) := by
      have length : (mix.cycle.length : ℚ) ≠ 0 :=
        Nat.cast_ne_zero.mpr (Nat.ne_of_gt mix.length_cycle_pos)
      rw [exactRatio]
      push_cast
      field_simp
    rw [routed_eq, whole, Int.ceil_add_natCast, add_sub_cancel_left, Int.cast_natCast]

/-- Two cycles hold two gets, whether they start with one or not, and so do six iterations that cut
the cycles. -/
theorem routed_by_ratio_cut_cycles :
    Mix.mixed.cycle.length ∣ 8 ∧
      ((Mix.mixed.routed .get 3 8).card : ℚ) = 8 * Mix.mixed.exactRatio .get ∧
      (Mix.mixed.routed .get 3 6).card = 2 ∧ |(2 : ℚ) - 6 * Mix.mixed.exactRatio .get| < 1 := by
  have divides : Mix.mixed.cycle.length ∣ 8 := by decide
  have six : (Mix.mixed.routed .get 3 6).card = 2 := by decide
  obtain ⟨-, whole, -⟩ := routed_by_ratio .mixed .get 3 8
  obtain ⟨cut, -, -⟩ := routed_by_ratio .mixed .get 3 6
  rw [six] at cut
  exact ⟨divides, mod_cast whole divides, six, mod_cast cut⟩

end Mix

end StoreTrial
