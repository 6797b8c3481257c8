import StoreTrial.Proofs.WorkloadCalls

/-! # The measured loop

The calls of a workload that fall between the two readings of the clock. A run that is measured
has made all puts of its preparation before them, and they are the turns of its iterations, none
of which is refused (`StoreTrial.Workload.loop_of_measured`).
-/

namespace StoreTrial

/-- From one state a probing has one outcome. -/
theorem Probing.Ends.outcome_unique {σ ε α : Type} {engine : Engine σ} {clock : Nat → Nat}
    {probing : Probing ε α} {generator first second : Generator ε}
    {start after other : σ × Nat} {made more : List (σ × Request)} {left right : Outcome α}
    (ends : Ends engine clock probing generator start made left first after)
    (again : Ends engine clock probing generator start more right second other) : left = right :=
  congrArg (fun ended => ended.1.1) (ends.run.symm.trans again.run)

namespace Workload

variable {σ ε : Type} [EntropySource ε]

/-- The calls of the measured loop: those that the iterations make on the engine as preparing the
case has left it, after the first reading of the clock. -/
def loopCalls (engine : Engine σ) (clock : Nat → Nat) (workload : Workload) (iterations : Nat)
    (generator : Generator ε) (start : σ × Nat) : List (σ × Request) :=
  let ended := ((workload.prepare iterations).script generator).run (Probe.answer engine clock)
    start
  match ended.1.1 with
  | .error _ => []
  | .ok prepared =>
      (workload.iterate prepared iterations).script.calls engine clock (ended.2.1, ended.2.2 + 1)

variable {engine : Engine σ} {clock : Nat → Nat} {workload : Workload} {iterations : Nat}
  {generator : Generator ε} {start : σ × Nat}

theorem loopCalls_of_ends {made more : List (σ × Request)} {prepared : Prepared}
    {outcome : Outcome Unit} {later : Generator ε} {middle after : σ × Nat}
    (prepares : Probing.Ends engine clock (workload.prepare iterations) generator start made
      (.ok prepared) later middle)
    (iterates : Attempt.Ends engine clock (workload.iterate prepared iterations)
      (middle.1, middle.2 + 1) more outcome after) :
    loopCalls engine clock workload iterations generator start = more := by
  unfold loopCalls
  rw [prepares.run]
  exact iterates.calls

/-- **A run that is measured has populated its engine and then made the turn of every
iteration.** No call was refused. -/
theorem loop_of_measured {measurement : Measurement}
    (measured : (((workload.measure iterations).script generator).run
      (Probe.answer engine clock) start).1.1 = .ok measurement) :
    let course := (workload.course iterations generator).value
    let loop := loopCalls engine clock workload iterations generator start
    workload.setback? = none ∧
    measurement.bytes = wrapped (iterations * workload.bytesPerIteration) ∧
    ∃ populated middle after,
      ((workload.measure iterations).script generator).calls engine clock start =
        populated ++ loop ∧
      engine.InTurn (Request.puts course.populated) start.1 populated (.ok ()) middle ∧
      engine.InTurn ((List.range iterations).flatMap course.turn) middle loop (.ok ()) after := by
  intro course loop
  obtain ⟨_, result, ending, _, _, whole, _, ended⟩ :=
    ends_measure workload iterations generator engine clock start
  rw [whole.run] at measured
  obtain rfl : result = .ok () := by
    cases result with
    | ok granted => rfl
    | error stop => cases measured
  obtain rfl : ending = .ok measurement := measured
  have fine : workload.setback? = none := ended.exists_eq_ok_iff.mp ⟨measurement, rfl⟩
  have bytes : measurement.bytes = wrapped (iterations * workload.bytesPerIteration) := by
    rw [EndsWith, fine] at ended
    obtain ⟨elapsed, same⟩ := ended
    rw [Except.ok.inj same]
  refine ⟨fine, bytes, ?_⟩
  obtain ⟨prepared, prepares, serves⟩ := prepares_of_setback fine iterations generator
  obtain ⟨populated, outcome, later, middle, starts, puts, _⟩ := prepares engine clock start
  cases outcome with
  | error stop =>
      -- A refused put would have ended the run.
      have stopped : Probing.Ends engine clock (workload.measure iterations) generator start
          populated (.error stop) later middle := starts.bind_stop
      cases whole.outcome_unique stopped
  | ok granted =>
      obtain ⟨more, outcome, after, iterates, turns⟩ :=
        serves.makes_iterate engine clock (middle.1, middle.2 + 1)
      obtain ⟨elapsed, instants, finished⟩ := ends_measure_of_prepared starts iterates
      have all : loop = more := loopCalls_of_ends starts iterates
      cases outcome with
      | error stop => cases whole.outcome_unique finished
      | ok done =>
          refine ⟨populated, middle.1, after.1, ?_, puts, ?_⟩
          · rw [finished.calls, all]
          · rw [all]
            exact turns

end Workload

end StoreTrial
