import StoreTrial.Proofs.WorkloadCalls

/-! # Panics of a workload

On an engine whose calls do not panic a workload returns, with a measurement or a failure: every
iteration finds the key and the value it asks for, whatever was drawn. The one exception is a mix
over items with empty values, of which the second cannot be told apart from the first
(`StoreTrial.Workload.measure_returns_iff`).
-/

namespace StoreTrial

variable {σ α : Type}

/-- No call of the engine panics. -/
def Engine.Calm (engine : Engine σ) : Prop :=
  ∀ request state message, (engine request state).1 ≠ .error (.panicked message)

/-- What is no panic is a value or a failure. -/
theorem Outcome.exists_eq_ofResult_iff {outcome : Outcome α} :
    (∃ result, outcome = .ofResult result) ↔ ∀ message, outcome ≠ .error (.panicked message) := by
  constructor
  · rintro ⟨result, rfl⟩ message
    cases result <;> simp [ofResult]
  · intro calm
    cases outcome with
    | ok value => exact ⟨.ok value, rfl⟩
    | error stop =>
        cases stop with
        | failed failure => exact ⟨.error failure, rfl⟩
        | panicked message => exact absurd rfl (calm message)

theorem MemoryEngine.calm_answering {μ : Type} (save : Save μ) : (answering save).Calm :=
  fun _ _ => Outcome.exists_eq_ofResult_iff.mp ⟨_, rfl⟩

/-- Calls of an engine that does not panic end without a panic. -/
theorem Engine.InTurn.ne_panicked {engine : Engine σ} (calm : engine.Calm)
    {requests : List Request} {before after : σ} {made : List (σ × Request)}
    {outcome : Outcome Unit} (calls : engine.InTurn requests before made outcome after)
    (message : String) : outcome ≠ .error (.panicked message) := by
  induction calls with
  | finished state => simp
  | answered granted later ih => exact ih
  | refused denied =>
      rintro ⟨⟩
      exact calm _ _ message denied

namespace Workload

variable {workload : Workload}

/-- A case lacks values, and is not rejected, if it is a mix over items with empty values. -/
theorem lacksValues_iff :
    workload.rejection? = none ∧ workload.lacksValues = true ↔
      ∃ plan, workload = .mixed plan ∧ 0 < plan.items ∧ plan.valueSize = 0 := by
  cases workload with
  | mixed plan => simp [rejection?, lacksValues, Nat.pos_iff_ne_zero]
  | single _ _ | batch _ _ | randomGet _ _ | putOnly _ => simp [lacksValues]

/-- If no call is refused, only a case that lacks values panics. -/
theorem EndsWith.eq_panicked_iff {iterations : Nat} {ending : Outcome Measurement}
    (ends : workload.EndsWith iterations ending) (message : String) :
    ending = .error (.panicked message) ↔
      (workload.rejection? = none ∧ workload.lacksValues = true) ∧
        message = "assertion failed: mid <= self.len()" := by
  unfold EndsWith setback? at ends
  cases rejected : workload.rejection? with
  | some failure =>
      rw [rejected] at ends
      simp [ends]
  | none =>
      cases lacks : workload.lacksValues with
      | true =>
          simp only [rejected, lacks, if_true] at ends
          simp [ends, eq_comm]
      | false =>
          simp only [rejected, lacks, Bool.false_eq_true, if_false] at ends
          obtain ⟨elapsed, rfl⟩ := ends
          simp

variable {ε : Type} [EntropySource ε]

/-- **On an engine that does not panic a run returns, unless it overwrites with empty values.** It
panics exactly if it is a mix over items with empty values whose populating puts are all granted,
and always with the same message. -/
theorem measure_returns_iff (workload : Workload) (iterations : Nat) (generator : Generator ε)
    (engine : Engine σ) (calm : engine.Calm) (clock : Nat → Nat) (start : σ × Nat) :
    let script := (workload.measure iterations).script generator
    let calls := script.calls engine clock start
    let outcome := (script.run (Probe.answer engine clock) start).1.1
    ((∃ result, outcome = .ofResult result) ↔
      ¬((∃ plan, workload = .mixed plan ∧ 0 < plan.items ∧ plan.valueSize = 0) ∧
        ∀ call ∈ calls, ∃ answer, (engine call.2 call.1).1 = .ok answer)) ∧
    ∀ message, outcome = .error (.panicked message) →
      message = "assertion failed: mid <= self.len()" := by
  intro script calls outcome
  obtain ⟨made, result, ending, later, after, ends, turns, ended⟩ :=
    ends_measure workload iterations generator engine clock start
  have all : calls = made := ends.calls
  have same : outcome = Outcome.followedBy result ending := by
    change (script.run _ start).1.1 = _
    rw [ends.run]
  have panics (message : String) :
      outcome = .error (.panicked message) ↔
        ((∃ plan, workload = .mixed plan ∧ 0 < plan.items ∧ plan.valueSize = 0) ∧
          ∀ call ∈ calls, ∃ answer, (engine call.2 call.1).1 = .ok answer) ∧
        message = "assertion failed: mid <= self.len()" := by
    rw [← lacksValues_iff, all, ← turns.eq_ok_iff, same, and_right_comm,
      ← ended.eq_panicked_iff message]
    cases result with
    | ok granted => simp [Outcome.followedBy]
    | error stop => simpa [Outcome.followedBy] using turns.ne_panicked calm message
  refine ⟨?_, fun message panicked => ((panics message).mp panicked).2⟩
  rw [Outcome.exists_eq_ofResult_iff]
  constructor
  · intro returns stuck
    exact returns _ ((panics _).mpr ⟨stuck, rfl⟩)
  · intro free message panicked
    exact free ((panics message).mp panicked).1

/-- The second populating put of a mix with empty values is refused, and the run returns. -/
theorem measure_returns_iff_refused_populating :
    let plan : Plan := { name := "m", keySize := 1, valueSize := 0, items := 2, mix := .mixed }
    let generator : Generator Source := { source := .unavailable, seed := defaultSeed }
    let engine := granting 1 (.engine "disk on fire")
    let script := (measure (.mixed plan) 5).script generator
    engine.Calm ∧
      script.calls engine id (0, 0) =
        [(0, .put (Key.sequential "mixed-" 0) []), (1, .put (Key.sequential "mixed-" 1) [])] ∧
      ∃ result, (script.run (Probe.answer engine id) (0, 0)).1.1 = .ofResult result := by
  intro plan generator engine script
  have calm : engine.Calm := by
    intro request state message
    change (granting 1 _ request state).1 ≠ _
    unfold granting
    cases request <;> dsimp only <;> split <;> simp
  have calls : script.calls engine id (0, 0) =
      [(0, .put (Key.sequential "mixed-" 0) []), (1, .put (Key.sequential "mixed-" 1) [])] := by
    decide +kernel
  obtain ⟨returns, -⟩ := measure_returns_iff (.mixed plan) 5 generator engine calm id (0, 0)
  refine ⟨calm, calls, returns.mpr ?_⟩
  rintro ⟨_, granted⟩
  obtain ⟨answer, denied⟩ := granted (1, .put (Key.sequential "mixed-" 1) []) (by
    dsimp only [script] at calls
    simp [calls])
  simp [engine, granting] at denied

/-- A run need not return: on a new engine, which does not panic, a mix over one item with an
empty value panics before its first iteration. -/
theorem measure_panics_with_empty_values :
    let plan : Plan := { name := "m", keySize := 1, valueSize := 0, items := 1 }
    let generator : Generator Source := { source := .unavailable, seed := defaultSeed }
    let handle : MemoryEngine := ⟨"db", false, Store.empty, false⟩
    let disk := (Disk.empty.makeDirectories (.ofText "db")).2
    let engine := MemoryEngine.answering handle.save
    MemoryEngine.openAt "db" ⟨"db", false, true⟩ Disk.empty = (.ok handle, disk) ∧
      engine.Calm ∧
      (((measure (.mixed plan) 1).script generator).run (Probe.answer engine id)
        ((handle, disk), 0)).1.1 = .error (.panicked "assertion failed: mid <= self.len()") := by
  intro plan generator handle disk engine
  exact ⟨by decide +kernel, MemoryEngine.calm_answering _, by decide +kernel⟩

end Workload

end StoreTrial
