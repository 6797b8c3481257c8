import StoreTrial.Entropy.Source
import StoreTrial.Host.World
import StoreTrial.Proofs.AlikeScripts
import StoreTrial.Proofs.EngineCalls
import StoreTrial.Proofs.LeaseDialogues

/-! # Ends of samples

However the run of a sample ends, the engine that was leased for it is closed once after the last
call of the run, and then its location is removed once. What is noted is that the run failed and
that the close failed, and there is a measurement exactly if the run has one. This holds for every
run that does not close the engine itself, such as those of workloads and of parallel workers
(`StoreTrial.Sampler.sample_gives_back`).
-/

namespace StoreTrial

/-- What a sample runs: a workload, or parallel workers whose calls follow a schedule. -/
inductive Sample where
  | workload (case : Workload) (iterations : Nat)
  | parallel (case : ParallelCase) (schedule : List Nat) (iterations : Nat)
  deriving DecidableEq

namespace Sample

def name : Sample → String
  | .workload case _ => case.name
  | .parallel _ _ _ => ParallelCase.name

def run {γ : Type} [EntropySource γ] (workers : Nat) : Sample → Probing γ Measurement
  | .workload case iterations => case.measure iterations
  | .parallel case schedule iterations => case.measure schedule workers iterations

def report (trial : Trial) (workers : Nat) : Sample → Measurement → Event
  | .workload case iterations, measurement =>
      .sampleComplete trial.name case.name iterations measurement.nanosPerStep
  | .parallel _ _ iterations, measurement =>
      .parallelSampleComplete trial.name workers iterations measurement.stepsPerSecond

/-- From generators that are related a run probes alike, up to the time that it measures. -/
theorem alike_run {γ : Type} [EntropySource γ] {kin : Generator γ → Generator γ → Prop}
    (draws : Generator.DrawAlike kin) (workers : Nat) (sample : Sample) :
    Probing.Alike kin Measurement.Alike (sample.run workers) (sample.run workers) := by
  cases sample with
  | workload case iterations => exact case.alike_measure draws iterations
  | parallel case schedule iterations => exact case.alike_measure draws schedule _ _

end Sample

variable {σ ε γ α : Type} {answer : (question : Question) → σ → question.Reply × σ}

/-- A script that probes an engine does nothing but call it. -/
theorem Script.exists_call_of_mem_deeds (script : Script Probe.Reply α) (handle : Handle)
    (state : σ) :
    ∀ exchange ∈ (script.interpret (Probe.on handle)).deeds answer state,
      ∃ request, exchange.1 = .call handle request := by
  induction script generalizing state with
  | done value => exact fun _ member => nomatch member
  | ask probe next ih =>
      cases probe with
      | call request =>
          intro exchange member
          rcases List.mem_cons.mp member with rfl | rest
          · exact ⟨request, rfl⟩
          · exact ih _ _ exchange rest
      | instant => exact ih _ _
      | log event => exact ih _ _

/-- A script that probes alike leaves the engine open. -/
theorem Script.Alike.not_close {valued : α → α → Prop} {left right : Script Probe.Reply α}
    (alike : Script.Alike valued left right) (handle : Handle) (state : σ) :
    ∀ exchange ∈ (left.interpret (Probe.on handle)).deeds answer state,
      exchange.1 ≠ .call handle .close := by
  induction alike generalizing state with
  | done fine => exact fun _ member => nomatch member
  | @call request left right stays later ih =>
      intro exchange member
      rcases List.mem_cons.mp member with rfl | rest
      · exact fun closes => stays (Question.call.inj closes).2
      · exact ih _ _ exchange rest
  | instant later ih => exact ih _ 0 _
  | log later ih => exact ih _

namespace Sampler

def sample [EntropySource ε] [EntropySource γ] (sampler : Sampler ε γ) (trial : Trial) :
    Sample → Dialogue (Outcome Measurement × Sampler ε γ)
  | .workload case iterations => sampler.measure trial case iterations
  | .parallel case schedule iterations => sampler.measureParallel trial case schedule iterations

/-- What is noted about a run. -/
def abortNotes (trial : Trial) (name : String) : (outcome : Outcome Measurement) → List Exchange
  | .error (.failed failure) => [⟨.note trial.ledger (abortText name failure), ()⟩]
  | _ => []

/-- How a sample ends by how its run ends and how its lease is given back. -/
def verdict (trial : Trial) (name : String) (ending : Outcome Unit) :
    (outcome : Outcome Measurement) → Outcome Measurement
  | .ok measurement => ending.map fun _ => measurement
  | .error (.failed failure) => .error (.panicked (trial.abortText (abortText name failure)))
  | .error (.panicked message) => .error (.panicked message)

section Conclude

variable (lease : Lease) (name : String) (report : Measurement → Event)

/-- The dialogue after a lease was given back by a run with a measurement. -/
def afterTeardown (report : Measurement → Event) (measurement : Measurement) :
    (closed : Outcome Unit) → Dialogue (Outcome Measurement)
  | .ok () => .ask (.log (report measurement)) fun _ => .done (.ok measurement)
  | .error stop => .done (.error stop)

theorem dialogue_conclude_ok (measurement : Measurement) :
    (conclude lease name report (.ok measurement)).dialogue =
      lease.teardown.bind fun ended => afterTeardown report measurement ended.1 := by
  apply (Script.bind_assoc _ _ _).trans
  refine congrArg (Script.bind _) (funext fun ended => ?_)
  obtain ⟨closed, left⟩ := ended
  cases closed with
  | ok done => rfl
  | error stop => rfl

theorem dialogue_conclude_failed (failure : Failure) :
    (conclude lease name report (.error (.failed failure))).dialogue =
      (lease.abort (abortText name failure)).bind fun ended => .done ended.1 := by
  apply (Script.bind_assoc _ _ _).trans
  rfl

theorem dialogue_conclude_panicked (message : String) :
    (conclude lease name report (.error (.panicked message))).dialogue =
      lease.release.bind fun _ => .done (.error (.panicked message)) := by
  apply (Script.bind_assoc _ _ _).trans
  apply (Script.bind_assoc _ _ _).trans
  rfl

end Conclude

/-- What ends a sample gives the lease back once and does no more than that, apart from noting a
failure of the run. Here `ready` is a state in which the lease can be given back, and `given` says
what that does and where it leads. -/
theorem does_conclude {lease : Lease} {ready : σ → Prop}
    {given : List Exchange → Outcome Unit → σ → Prop}
    (logs : ∀ event state, ready state → ready (answer (.log event) state).2)
    (notes : ∀ ledger message state, ready state → ready (answer (.note ledger message) state).2)
    (reports : ∀ made ending event state, given made ending state →
      given made ending (answer (.log event) state).2)
    (releases : ∀ state, ready state → ∃ made ending after,
      Dialogue.Does answer lease.release state made (ending, { lease with released := true })
        after ∧ given made ending after)
    (name : String) (report : Measurement → Event) (outcome : Outcome Measurement)
    (state : σ) (holds : ready state) :
    ∃ made ending after,
      Dialogue.Does answer (conclude lease name report outcome).dialogue state
        (abortNotes lease.owner name outcome ++ made) (verdict lease.owner name ending outcome)
        after ∧ given made ending after := by
  -- Each way out of the run gives the lease back once: let go, aborted, or while unwinding.
  match outcome with
  | .ok measurement =>
      obtain ⟨made, ending, after, gives, fine⟩ := releases state holds
      have tears := Lease.does_teardown gives
      rw [dialogue_conclude_ok]
      cases ending with
      | ok done =>
          have ends : Dialogue.Does answer (afterTeardown report measurement (.ok done)) after []
              (.ok measurement) _ := ⟨rfl, rfl⟩
          refine ⟨made, .ok done, _, ?_, reports _ _ (report measurement) _ fine⟩
          rw [← List.append_nil made]
          exact tears.bind ends
      | error stop =>
          refine ⟨made, .error stop, after, ?_, fine⟩
          rw [← List.append_nil made]
          exact tears.bind (.done _ _)
  | .error (.failed failure) =>
      obtain ⟨made, ending, after, gives, fine⟩ := releases _ (notes _ _ _ (logs _ state holds))
      refine ⟨made, ending, after, ?_, fine⟩
      rw [dialogue_conclude_failed, ← List.append_nil (_ ++ made)]
      exact (Lease.does_abort state gives).bind (.done _ _)
  | .error (.panicked message) =>
      obtain ⟨made, ending, after, gives, fine⟩ := releases state holds
      refine ⟨made, ending, after, ?_, fine⟩
      rw [dialogue_conclude_panicked, ← List.append_nil (_ ++ made)]
      exact gives.bind (.done _ _)

variable [EntropySource ε]

/-- Taking a sample is the lease, the run on it, and what ends the sample. -/
theorem does_take {sampler : Sampler ε γ} {trial : Trial} {name : String}
    {run : Probing γ Measurement} {report : Measurement → Event} {lease : Lease}
    {provisioner : Provisioner ε} {measured : Outcome Measurement × Generator γ}
    {result : Outcome Measurement} {before leased late after : σ}
    {opened called made : List Exchange}
    (opens : Dialogue.Does answer (Provisioner.dialogue (Provisioner.lease trial)
      sampler.provisioner) before opened (.ok lease, provisioner) leased)
    (runs : Dialogue.Does answer (run.dialogue lease.handle sampler.generator) leased called
      measured late)
    (concludes : Dialogue.Does answer (conclude lease name report measured.1).dialogue late made
      result after) :
    Dialogue.Does answer (sampler.take trial name run report) before (opened ++ (called ++ made))
      (result, { sampler with provisioner := provisioner, generator := measured.2 }) after := by
  rw [← List.append_nil made]
  exact opens.bind (runs.bind (concludes.bind (.done _ _)))

/-- After a lease a run probes the engine without closing it. Then it is noted that the run failed,
the engine is closed, and, unless the close panics, it is noted that the close failed and the
location is removed. There is a measurement exactly if the run has one. -/
structure GivesBack (answer : (question : Question) → σ → question.Reply × σ)
    (sampler : Sampler ε γ) (trial : Trial) (name : String)
    (probing : Dialogue (Outcome Measurement × Generator γ))
    (sampling : Dialogue (Outcome Measurement × Sampler ε γ)) (before : σ) (lease : Lease)
    (leased : σ) : Prop where
  owner : lease.owner = trial
  probes : ∀ exchange ∈ probing.deeds answer leased,
    ∃ request, request ≠ .close ∧ exchange.1 = .call lease.handle request
  deeds : ∃ (closing : Outcome Unit) (last : List Exchange),
    sampling.deeds answer before =
      ⟨.openAt sampler.provisioner.opener lease.location
        (Provisioner.optionsAt sampler.provisioner.settings lease.location), .ok lease.handle⟩ ::
      probing.deeds answer leased ++
      abortNotes trial name (probing.run answer leased).1.1 ++
      ⟨.call lease.handle .close, closing⟩ :: last ∧
    ((∀ message, closing ≠ .error (.panicked message)) →
      (∃ cleared, last = lease.closeNotes closing ++ [⟨.clear lease.location, cleared⟩]) ∧
      ∀ measurement, (sampling.run answer before).1.1 = .ok measurement ↔
        (probing.run answer leased).1.1 = .ok measurement) ∧
    ((∃ message, closing = .error (.panicked message)) →
      last = [] ∧ ∀ measurement, (sampling.run answer before).1.1 ≠ .ok measurement)

/-- A sample of a run that leaves its engine open gives the lease back. -/
theorem take_gives_back (sampler : Sampler ε γ) (trial : Trial) (name : String)
    (run : Probing γ Measurement) (report : Measurement → Event) {before after : σ} {lease : Lease}
    {provisioner : Provisioner ε}
    (leased : (Provisioner.dialogue (Provisioner.lease trial) sampler.provisioner).run answer
      before = ((.ok lease, provisioner), after))
    (stays : ∀ exchange ∈ (run.dialogue lease.handle sampler.generator).deeds answer after,
      exchange.1 ≠ .call lease.handle .close) :
    sampler.GivesBack answer trial name (run.dialogue lease.handle sampler.generator)
      (sampler.take trial name run report) before lease after := by
  obtain ⟨opens, rfl, fresh⟩ := Provisioner.does_lease leased
  have probes : ∀ exchange ∈ (run.dialogue lease.handle sampler.generator).deeds answer after,
      ∃ request, request ≠ .close ∧ exchange.1 = .call lease.handle request := by
    intro exchange member
    obtain ⟨request, calls⟩ := Script.exists_call_of_mem_deeds _ _ _ exchange member
    exact ⟨request, fun closes => stays exchange member (calls.trans (by rw [closes])), calls⟩
  refine ⟨rfl, probes, ?_⟩
  cases ran : (run.dialogue lease.handle sampler.generator).run answer after with
  | mk measured late =>
      have runs : Dialogue.Does answer (run.dialogue lease.handle sampler.generator) after _
          measured late := ⟨rfl, ran⟩
      have releases : ∀ state : σ, True → ∃ made ending after,
          Dialogue.Does answer lease.release state made (ending, { lease with released := true })
              after ∧
            ∃ closing cleared, made = ⟨.call lease.handle .close, closing⟩ ::
                lease.clearing closing cleared ∧ ending = Lease.closed closing := by
        intro state _
        obtain ⟨closing, cleared, after, gives⟩ := Lease.does_release answer fresh state
        exact ⟨_, _, after, gives, closing, cleared, rfl, rfl⟩
      obtain ⟨_, _, last, concludes, closing, cleared, rfl, rfl⟩ :=
        does_conclude (fun _ _ _ => trivial) (fun _ _ _ _ => trivial) (fun _ _ _ _ same => same)
          releases name report measured.1 late trivial
      have takes := does_take opens runs concludes
      refine ⟨closing, lease.clearing closing cleared, ?_, ?_, ?_⟩
      · rw [takes.deeds]
        simp only [List.append_assoc, List.cons_append, List.nil_append]
      · intro returns
        refine ⟨⟨cleared, Lease.clearing_of_forall_ne returns lease cleared⟩, ?_⟩
        intro measurement
        rw [takes.run]
        match measured.1 with
        | .ok found => simp [verdict, Lease.closed_of_forall_ne returns, Except.map]
        | .error (.failed failure) => simp [verdict]
        | .error (.panicked message) => simp [verdict]
      · rintro ⟨message, rfl⟩
        refine ⟨rfl, fun measurement => ?_⟩
        rw [takes.run]
        match measured.1 with
        | .ok found => simp [verdict, Lease.closed, Except.map]
        | .error (.failed failure) => simp [verdict]
        | .error (.panicked message) => simp [verdict]

variable [EntropySource γ]

theorem sample_eq_take (sampler : Sampler ε γ) (trial : Trial) (sample : Sample) :
    sampler.sample trial sample = sampler.take trial sample.name (sample.run sampler.workers)
      (sample.report trial sampler.workers) := by
  cases sample with
  | workload case iterations => rfl
  | parallel case schedule iterations => rfl

/-- The run of a sample on a leased engine. -/
def probing (sampler : Sampler ε γ) (sample : Sample) (lease : Lease) :
    Dialogue (Outcome Measurement × Generator γ) :=
  (sample.run sampler.workers).dialogue lease.handle sampler.generator

/-- **However its run ends, a sample closes its engine once after the run and then removes its
location once**, if the run leaves the engine open; those of workloads and of parallel workers
do. -/
theorem sample_gives_back (sampler : Sampler ε γ) (trial : Trial) {before after : σ}
    {lease : Lease} {provisioner : Provisioner ε}
    (leased : (Provisioner.dialogue (Provisioner.lease trial) sampler.provisioner).run answer
      before = ((.ok lease, provisioner), after)) :
    (∀ (name : String) (run : Probing γ Measurement) (report : Measurement → Event),
      (∀ exchange ∈ (run.dialogue lease.handle sampler.generator).deeds answer after,
        exchange.1 ≠ .call lease.handle .close) →
      sampler.GivesBack answer trial name (run.dialogue lease.handle sampler.generator)
        (sampler.take trial name run report) before lease after) ∧
    ∀ sample : Sample, sampler.GivesBack answer trial sample.name (sampler.probing sample lease)
      (sampler.sample trial sample) before lease after := by
  refine ⟨fun name run report stays => take_gives_back sampler trial name run report leased stays,
    fun sample => ?_⟩
  have alike := sample.alike_run Generator.drawAlike_eq sampler.workers sampler.generator _ rfl
  rw [sample_eq_take]
  exact take_gives_back sampler trial _ _ _ leased (alike.not_close _ _)

/-- The second put of a sample fails, and then its close. -/
theorem sample_gives_back_of_full_disk :
    let settings : Settings := ⟨"tmp", "kv", 42, 1, false, "info"⟩
    let sampler : Sampler Source Source :=
      ⟨⟨0, settings, .planned #[.pattern #[7]] 0⟩, { source := .unavailable, seed := 42 }, 1⟩
    let trial : Trial := ⟨.bench, "b", 0⟩
    let sample : Sample := .workload (.single .put 2) 3
    let rig : Rig := { faults := [
      { kind := .put, turn := some 2, failure := some (.engine "disk full") },
      { kind := .close, failure := some (.engine "stuck") }] }
    let world : World := { World.fresh "tmp" 5 with rigs := [(0, rig)] }
    let lease : Lease := ⟨"tmp/kv-5-0707070707070707", 0, trial, false⟩
    let leasing := (Provisioner.dialogue (Provisioner.lease trial) sampler.provisioner).run
      World.answer world
    leasing = ((.ok lease, leasing.1.2), leasing.2) ∧
      sampler.GivesBack World.answer trial sample.name (sampler.probing sample lease)
        (sampler.sample trial sample) world lease leasing.2 ∧
      ((sampler.sample trial sample).deeds World.answer world).map Sigma.fst = [
        .openAt 0 lease.location (Provisioner.optionsAt settings lease.location),
        .call 0 (.put (Key.sequential "single-" 0) (Generator.fallbackValue 42 2)),
        .call 0 (.put (Key.sequential "single-" 1) (Generator.fallbackValue 42 2)),
        .note 0 "put aborted: disk full",
        .call 0 .close,
        .note 0 "failed to close engine at tmp/kv-5-0707070707070707: stuck",
        .clear lease.location] := by
  intro settings sampler trial sample rig world lease leasing
  have granted : leasing.1.1 = .ok lease := by decide +kernel
  have leased : leasing = ((.ok lease, leasing.1.2), leasing.2) :=
    Prod.ext (Prod.ext granted rfl) rfl
  exact ⟨leased, (sample_gives_back sampler trial leased).2 sample, by decide +kernel⟩

end Sampler

end StoreTrial
