import StoreTrial.Sampler

/-! # Scripts that probe alike

Two scripts probe alike when they make the same calls on an engine that they leave open, and go on
alike whatever they are replied, whatever each reads from its clock and whatever each reports
(`StoreTrial.Script.Alike`). What draws payloads probes alike from two generators whose draws agree
(`StoreTrial.Generator.DrawAlike`), and so does every run of a sample up to the time that it
measures (`StoreTrial.Workload.alike_measure`, `StoreTrial.ParallelCase.alike_measure`).
-/

namespace StoreTrial

variable {ε α β : Type}

/-- Two outcomes with values that are related, or with one stop. -/
inductive Outcome.Alike (valued : α → α → Prop) : Outcome α → Outcome α → Prop where
  | ok {left right : α} (fine : valued left right) : Alike valued (.ok left) (.ok right)
  | error (stop : Stop) : Alike valued (.error stop) (.error stop)

theorem Outcome.alike_eq_iff {left right : Outcome α} :
    Outcome.Alike Eq left right ↔ left = right := by
  constructor
  · rintro (⟨rfl⟩ | stop)
    · rfl
    · rfl
  · rintro rfl
    cases left with
    | ok value => exact .ok rfl
    | error stop => exact .error stop

namespace Script

variable {valued : α → α → Prop} {ending : β → β → Prop}

/-- Two scripts that call an engine alike and leave it open. Clocks may show different times to
them, and what they report may differ. -/
inductive Alike (valued : α → α → Prop) : Script Probe.Reply α → Script Probe.Reply α → Prop where
  | done {left right : α} (fine : valued left right) : Alike valued (.done left) (.done right)
  | call {request : Request} {left right : Outcome request.Answer → Script Probe.Reply α}
      (stays : request ≠ .close) (later : ∀ reply, Alike valued (left reply) (right reply)) :
      Alike valued (.ask (.call request) left) (.ask (.call request) right)
  | instant {left right : Nat → Script Probe.Reply α}
      (later : ∀ first second, Alike valued (left first) (right second)) :
      Alike valued (.ask .instant left) (.ask .instant right)
  | log {event other : Event} {left right : Unit → Script Probe.Reply α}
      (later : Alike valued (left ()) (right ())) :
      Alike valued (.ask (.log event) left) (.ask (.log other) right)

namespace Alike

theorem bind {left right : Script Probe.Reply α} {first second : α → Script Probe.Reply β}
    (alike : Alike valued left right)
    (rest : ∀ value other, valued value other → Alike ending (first value) (second other)) :
    Alike ending (left.bind first) (right.bind second) := by
  induction alike with
  | done fine => exact rest _ _ fine
  | call stays later ih => exact .call stays ih
  | instant later ih => exact .instant ih
  | log later ih => exact .log ih

theorem mono {left right : Script Probe.Reply α} {values : α → α → Prop}
    (alike : Alike valued left right)
    (more : ∀ value other, valued value other → values value other) :
    Alike values left right := by
  induction alike with
  | done fine => exact .done (more _ _ fine)
  | call stays later ih => exact .call stays ih
  | instant later ih => exact .instant ih
  | log later ih => exact .log ih

theorem sequence {pairs : List (Script Probe.Reply α × Script Probe.Reply α)}
    (each : ∀ pair ∈ pairs, Alike Eq pair.1 pair.2) :
    Alike Eq (Script.sequence (pairs.map Prod.fst)) (Script.sequence (pairs.map Prod.snd)) := by
  induction pairs with
  | nil => exact .done rfl
  | cons pair pairs ih =>
      obtain ⟨first, others⟩ := List.forall_mem_cons.mp each
      apply first.bind
      rintro value _ rfl
      apply (ih others).bind
      rintro values _ rfl
      exact .done rfl

/-- Scripts that go on alike do so side by side. -/
theorem interleave {schedule : List Nat}
    {pairs : List (Script Probe.Reply α × Script Probe.Reply α)}
    (each : ∀ pair ∈ pairs, Alike Eq pair.1 pair.2) :
    Alike Eq (Script.interleave schedule (pairs.map Prod.fst))
      (Script.interleave schedule (pairs.map Prod.snd)) := by
  induction schedule generalizing pairs with
  | nil => exact sequence each
  | cons turn schedule ih =>
      -- One question of the pair at this turn, and the pair that is left after it.
      have next (pair : Script Probe.Reply α × Script Probe.Reply α)
          (later : Alike Eq pair.1 pair.2) :
          Alike Eq (Script.interleave schedule ((pairs.map Prod.fst).set turn pair.1))
            (Script.interleave schedule ((pairs.map Prod.snd).set turn pair.2)) := by
        rw [← List.map_set, ← List.map_set]
        apply ih
        intro script member
        rcases List.mem_or_eq_of_mem_set member with old | rfl
        · exact each script old
        · exact later
      rw [Script.interleave, Script.interleave, List.getElem?_map, List.getElem?_map]
      cases found : pairs[turn]? with
      | none => exact ih each
      | some pair =>
          obtain ⟨left, right⟩ := pair
          cases each _ (List.mem_of_getElem? found) with
          | done fine => exact ih each
          | call stays later => exact .call stays fun reply => next (_, _) (later reply)
          | instant later => exact .instant fun first second => next (_, _) (later first second)
          | log later => exact .log (next (_, _) later)

end Alike

end Script

/-! ## Draws -/

/-- Generators that are related have one seed, and what is drawn from them agrees but for the
failures. -/
structure Generator.DrawAlike [EntropySource ε] (kin : Generator ε → Generator ε → Prop) :
    Prop where
  seed : ∀ first second, kin first second → first.seed = second.seed
  fill : ∀ first second count, kin first second →
    (EntropySource.fill first.source count).1.toOption =
        (EntropySource.fill second.source count).1.toOption ∧
      kin { first with source := (EntropySource.fill first.source count).2 }
        { second with source := (EntropySource.fill second.source count).2 }
  report : ∀ first second, kin first second →
    kin { first with reported := true } { second with reported := true }

theorem Generator.drawAlike_eq [EntropySource ε] :
    Generator.DrawAlike (Eq : Generator ε → Generator ε → Prop) where
  seed := by
    rintro generator _ rfl
    rfl
  fill := by
    rintro generator _ count rfl
    exact ⟨rfl, rfl⟩
  report := by
    rintro generator _ rfl
    rfl

/-- What was drawn from two generators, with as many reports. -/
structure Drawn.Alike (kin : Generator ε → Generator ε → Prop) (valued : α → α → Prop)
    (left right : Drawn ε α) : Prop where
  value : valued left.value right.value
  events : left.events.length = right.events.length
  generator : kin left.generator right.generator

namespace Draw

variable {kin : Generator ε → Generator ε → Prop} {valued : α → α → Prop} {ending : β → β → Prop}

/-- From generators that are related a draw gives values that are related, too. -/
def Alike (kin : Generator ε → Generator ε → Prop) (valued : α → α → Prop) (draw : Draw ε α) :
    Prop :=
  ∀ first second, kin first second → Drawn.Alike kin valued (draw first) (draw second)

theorem alike_pure (value : α) : Alike kin Eq (Pure.pure value : Draw ε α) :=
  fun _ _ related => ⟨rfl, rfl, related⟩

theorem Alike.bind {draw : Draw ε α} {next : α → Draw ε β} (start : Alike kin Eq draw)
    (rest : ∀ value, Alike kin ending (next value)) : Alike kin ending (draw >>= next) := by
  intro first second related
  have drawn := start first second related
  have later := rest (draw second).value _ _ drawn.generator
  change Drawn.Alike kin ending (Draw.bind draw next first) (Draw.bind draw next second)
  rw [Draw.bind, Draw.bind, drawn.value]
  refine ⟨later.value, ?_, later.generator⟩
  rw [List.length_append, List.length_append, drawn.events, later.events]

theorem Alike.map {draw : Draw ε α} (alike : Alike kin Eq draw) (f : α → β) :
    Alike kin Eq (f <$> draw) := by
  intro first second related
  have drawn := alike first second related
  exact ⟨congrArg f drawn.value, drawn.events, drawn.generator⟩

theorem Alike.replicate {draw : Draw ε α} (alike : Alike kin Eq draw) (count : Nat) :
    Alike kin Eq (Draw.replicate draw count) := by
  induction count with
  | zero => exact alike_pure _
  | succ count ih => exact alike.bind fun _ => ih.map _

end Draw

namespace Generator

variable [EntropySource ε] {kin : Generator ε → Generator ε → Prop}

theorem DrawAlike.spelled (draws : DrawAlike kin) (alphabet : Alphabet) (length : Nat) :
    Draw.Alike kin (fun left right => left.toOption = right.toOption)
      (spelled alphabet length : Draw ε (Except Failure Bytes)) := by
  intro first second related
  unfold Generator.spelled
  split
  · exact ⟨rfl, rfl, related⟩
  · have spells (filled : Except Failure (Filled length)) :
        (filled.map fun bytes => alphabet.spell bytes.val).toOption =
          filled.toOption.map fun bytes => alphabet.spell bytes.val := by
      cases filled <;> rfl
    obtain ⟨same, left⟩ := draws.fill first second length related
    exact ⟨(spells _).trans ((congrArg _ same).trans (spells _).symm), rfl, left⟩

theorem DrawAlike.orFallback (draws : DrawAlike kin) {fallback : UInt64 → Bytes}
    {request : Draw ε (Except Failure Bytes)}
    (asks : Draw.Alike kin (fun left right => left.toOption = right.toOption) request) :
    Draw.Alike kin Eq (orFallback fallback request) := by
  intro first second related
  have asked := asks first second related
  have same := asked.value
  simp only [Generator.orFallback, bind, Draw.bind]
  cases drawn : (request first).value with
  | ok payload =>
      cases again : (request second).value with
      | ok other =>
          rw [drawn, again] at same
          refine ⟨Option.some.inj same, ?_, asked.generator⟩
          rw [List.length_append, List.length_append, asked.events]
          rfl
      | error failure =>
          rw [drawn, again] at same
          cases same
  | error failure =>
      cases again : (request second).value with
      | ok other =>
          rw [drawn, again] at same
          cases same
      | error other =>
          have reported := draws.report _ _ asked.generator
          refine ⟨congrArg fallback (draws.seed _ _ reported), ?_, reported⟩
          rw [List.length_append, List.length_append, asked.events]
          rfl

theorem DrawAlike.value (draws : DrawAlike kin) (length : Nat) :
    Draw.Alike kin Eq (value length : Draw ε Bytes) :=
  draws.orFallback (draws.spelled .value length)

theorem DrawAlike.freeKeys (draws : DrawAlike kin) (length count index : Nat)
    (taken : Std.ExtTreeSet Bytes compare) :
    Draw.Alike kin Eq (freeKeys length count index taken : Draw ε (List Bytes)) := by
  induction count generalizing index taken with
  | zero => exact Draw.alike_pure _
  | succ count ih =>
      have key : Draw.Alike kin Eq (freeKey length index taken.contains : Draw ε Bytes) :=
        (draws.orFallback (draws.spelled .key length)).bind fun _ => Draw.alike_pure _
      exact key.bind fun _ => (ih _ _).map _

end Generator

/-! ## Attempts -/

namespace Attempt

variable {valued : α → α → Prop} {ending : β → β → Prop}

/-- Two attempts that probe alike and end alike. -/
def Alike (valued : α → α → Prop) (left right : Attempt α) : Prop :=
  Script.Alike (Outcome.Alike valued) left.script right.script

/-- An attempt that probes alike whatever its clock shows. -/
def Steady (attempt : Attempt α) : Prop := Alike Eq attempt attempt

theorem steady_pure (value : α) : Steady (pure value) := .done (.ok rfl)

theorem steady_throw (stop : Stop) : Steady (throw stop : Attempt α) := .done (.error stop)

theorem steady_call {request : Request} (stays : request ≠ .close) : Steady (call request) :=
  .call stays fun _ => .done (Outcome.alike_eq_iff.mpr rfl)

theorem steady_log (event : Event) : Steady (log event) := .log (.done (.ok rfl))

theorem alike_instant : Alike (fun _ _ => True) instant instant :=
  .instant fun _ _ => .done (.ok trivial)

theorem Alike.bind {left right : Attempt α} {first second : α → Attempt β}
    (alike : Alike valued left right)
    (rest : ∀ value other, valued value other → Alike ending (first value) (second other)) :
    Alike ending (left >>= first) (right >>= second) := by
  apply Script.Alike.bind alike
  rintro _ _ (fine | stop)
  · exact rest _ _ fine
  · exact .done (.error stop)

theorem Steady.bind {attempt : Attempt α} {next : α → Attempt β} (steady : Steady attempt)
    (rest : ∀ value, Steady (next value)) : Steady (attempt >>= next) := by
  apply Alike.bind steady
  rintro value _ rfl
  exact rest value

theorem steady_discard_call {request : Request} (stays : request ≠ .close) :
    Steady (discard (call request)) :=
  (steady_call stays).bind fun _ => steady_pure ()

theorem Steady.tryCatch {attempt : Attempt α} {handler : Stop → Attempt α}
    (steady : Steady attempt) (handles : ∀ stop, Steady (handler stop)) :
    Steady (tryCatch attempt handler) := by
  apply Script.Alike.bind steady
  rintro _ _ (fine | stop)
  · exact .done (.ok fine)
  · exact handles stop

theorem steady_forM {ι : Type} {elements : List ι} {step : ι → Attempt Unit}
    (each : ∀ element, Steady (step element)) : Steady (elements.forM step) := by
  induction elements with
  | nil => exact steady_pure ()
  | cons element elements ih => exact Steady.bind (each element) fun _ => ih

theorem steady_element (elements : Array Bytes) (index : Nat) :
    Steady (element elements index) := by
  unfold element
  split
  · exact steady_pure _
  · exact steady_throw _

theorem steady_cyclicElement (elements : Array Bytes) (index : Nat) :
    Steady (cyclicElement elements index) := by
  unfold cyclicElement
  split
  · exact steady_throw _
  · exact steady_element _ _

end Attempt

/-! ## Probings -/

namespace Probing

variable {kin : Generator ε → Generator ε → Prop} {valued : α → α → Prop} {ending : β → β → Prop}

/-- Two probings that probe alike and end alike, from generators that are related. -/
def Alike (kin : Generator ε → Generator ε → Prop) (valued : α → α → Prop)
    (left right : Probing ε α) : Prop :=
  ∀ first second, kin first second →
    Script.Alike (fun ended other => Outcome.Alike valued ended.1 other.1 ∧ kin ended.2 other.2)
      (left.script first) (right.script second)

/-- A probing that probes alike whatever its clock shows, from generators that are related. -/
abbrev Steady (kin : Generator ε → Generator ε → Prop) (probing : Probing ε α) : Prop :=
  Alike kin Eq probing probing

theorem alike_pure {value other : α} (fine : valued value other) :
    Alike kin valued (pure value) (pure other) :=
  fun _ _ related => .done ⟨.ok fine, related⟩

theorem steady_pure (value : α) : Steady kin (pure value) := alike_pure rfl

theorem Alike.bind {left right : Probing ε α} {first second : α → Probing ε β}
    (alike : Alike kin valued left right)
    (rest : ∀ value other, valued value other → Alike kin ending (first value) (second other)) :
    Alike kin ending (left >>= first) (right >>= second) := by
  intro one two related
  apply Script.Alike.bind (alike one two related)
  rintro ⟨_, before⟩ ⟨_, after⟩ ⟨fine | stop, still⟩
  · exact rest _ _ fine before after still
  · exact .done ⟨.error stop, still⟩

theorem Steady.bind {probing : Probing ε α} {first second : α → Probing ε β}
    (steady : Steady kin probing)
    (rest : ∀ value, Alike kin ending (first value) (second value)) :
    Alike kin ending (probing >>= first) (probing >>= second) := by
  apply Alike.bind steady
  rintro value _ rfl
  exact rest value

theorem alike_ofAttempt {left right : Attempt α} (alike : Attempt.Alike valued left right) :
    Alike kin valued (liftM left) (liftM right) :=
  fun _ _ related => Script.Alike.bind alike fun _ _ fine => .done ⟨fine, related⟩

theorem alike_reports {events others : List Event} (same : events.length = others.length) :
    Alike kin Eq (events.forM fun event => (liftM (Attempt.log event) : Probing ε Unit))
      (others.forM fun event => (liftM (Attempt.log event) : Probing ε Unit)) := by
  induction events generalizing others with
  | nil =>
      cases others with
      | nil => exact steady_pure ()
      | cons other others => cases same
  | cons event events ih =>
      cases others with
      | nil => cases same
      | cons other others =>
          have logs : Attempt.Alike Eq (Attempt.log event) (Attempt.log other) :=
            .log (.done (.ok rfl))
          apply (alike_ofAttempt logs).bind
          rintro _ _ rfl
          exact ih (Nat.succ.inj same)

/-- What is drawn from generators that are related is the same. -/
theorem steady_draw {draw : Draw ε α} (alike : draw.Alike kin Eq) :
    Steady kin (Probing.draw draw) := by
  intro first second related
  have drawn := alike first second related
  exact (alike_reports drawn.events).bind (fun _ _ _ => alike_pure drawn.value) _ _ drawn.generator

end Probing

/-! ## Runs of samples -/

namespace Workload

variable [EntropySource ε] {kin : Generator ε → Generator ε → Prop}

open Attempt Probing

theorem steady_populate (keys : List Bytes) (value : Bytes) :
    Attempt.Steady (populate keys value) :=
  steady_forM fun _ => steady_call nofun

theorem steady_step (workload : Workload) (prepared : Prepared) (iteration : Nat) :
    Attempt.Steady (workload.step prepared iteration) := by
  cases workload with
  | single operation valueSize =>
      cases operation with
      | put | insert =>
          exact (steady_element _ _).bind fun _ => (steady_element _ _).bind fun _ =>
            steady_call nofun
      | get | contains =>
          exact (steady_element _ _).bind fun _ => steady_discard_call nofun
      | delete => exact (steady_element _ _).bind fun _ => steady_call nofun
  | batch size valueSize => exact steady_forM fun _ => steady_call nofun
  | randomGet population valueSize =>
      exact (steady_cyclicElement _ _).bind fun _ => steady_discard_call nofun
  | mixed plan =>
      refine (steady_cyclicElement _ _).bind fun key => (steady_element _ _).bind ?_
      intro fresh
      cases plan.mix.operation iteration with
      | get | contains => exact steady_discard_call nofun
      | put | delete | insert => exact steady_call nofun
  | putOnly plan =>
      exact (steady_cyclicElement _ _).bind fun _ => (steady_element _ _).bind fun _ =>
        steady_call nofun

theorem steady_iterate (workload : Workload) (prepared : Prepared) (iterations : Nat) :
    Attempt.Steady (workload.iterate prepared iterations) := by
  rw [iterate, forEachFrom_eq_forM]
  apply steady_forM
  intro iteration
  apply Attempt.Steady.tryCatch (workload.steady_step prepared iteration)
  intro stop
  cases stop with
  | failed failure => exact (steady_log _).bind fun _ => steady_throw _
  | panicked message => exact (Attempt.steady_pure ()).bind fun _ => steady_throw _

theorem steady_prepare (draws : Generator.DrawAlike kin) (workload : Workload)
    (iterations : Nat) : Steady kin (workload.prepare iterations : Probing ε Prepared) := by
  have value (length : Nat) :
      Steady kin (Probing.draw (Generator.value length) : Probing ε Bytes) :=
    steady_draw (draws.value length)
  have values (length count : Nat) :
      Steady kin
        (Probing.draw (Draw.replicate (Generator.value length) count) : Probing ε (List Bytes)) :=
    steady_draw ((draws.value length).replicate count)
  have rejects (failure : Failure) :
      Steady kin (liftM (Attempt.fail failure : Attempt PUnit) : Probing ε PUnit) :=
    alike_ofAttempt (steady_throw _)
  have populates (keys : List Bytes) (value : Bytes) :
      Steady kin (liftM (populate keys value) : Probing ε Unit) :=
    alike_ofAttempt (steady_populate keys value)
  cases workload with
  | single operation valueSize =>
      apply (value valueSize).bind
      intro drawn
      cases operation with
      | put | insert => exact Probing.steady_pure _
      | get | contains | delete => exact (populates _ _).bind fun _ => Probing.steady_pure _
  | batch size valueSize => exact (values _ _).bind fun _ => Probing.steady_pure _
  | randomGet population valueSize =>
      rw [prepare, prepareRandomGet]
      split
      · exact (rejects _).bind fun _ => (value valueSize).bind fun _ =>
          (populates _ _).bind fun _ => Probing.steady_pure _
      · exact (value valueSize).bind fun _ => (populates _ _).bind fun _ =>
          Probing.steady_pure _
  | mixed plan =>
      have rotates (second : Bytes) :
          Steady kin (liftM (Prepared.rotate second) : Probing ε Bytes) := by
        apply alike_ofAttempt
        cases second with
        | nil => exact steady_throw _
        | cons head tail => exact Attempt.steady_pure _
      have prepares (keys : List Bytes) : Steady kin (do
          let value ← Probing.draw (Generator.value plan.valueSize)
          populate keys value
          let first ← Probing.draw (Generator.value plan.valueSize)
          let second ← Probing.draw (Generator.value plan.valueSize)
          let second ← if second = first then Prepared.rotate second else pure second
          return ⟨keys.toArray, #[first, second]⟩ : Probing ε Prepared) := by
        refine (value _).bind fun drawn => (populates keys drawn).bind fun _ =>
          (value _).bind fun first => (value _).bind fun second => ?_
        split
        · exact (rotates second).bind fun _ => Probing.steady_pure _
        · exact (Probing.steady_pure second).bind fun _ => Probing.steady_pure _
      rw [prepare, prepareMixed]
      split
      · exact (rejects _).bind fun _ => prepares _
      · exact prepares _
  | putOnly plan =>
      have keys : Steady kin
          (Probing.draw (Generator.uniqueKeys plan.items plan.keySize) : Probing ε (List Bytes)) :=
        steady_draw (draws.freeKeys _ _ _ _)
      rw [prepare, preparePutOnly]
      split
      · exact (rejects _).bind fun _ => keys.bind fun _ => (values _ _).bind fun _ =>
          Probing.steady_pure _
      · exact keys.bind fun _ => (values _ _).bind fun _ => Probing.steady_pure _

end Workload

def Measurement.untimed (measurement : Measurement) : Measurement :=
  { measurement with elapsed := 0 }

/-- Two measurements of one run, which may have taken different times. -/
def Measurement.Alike (left right : Measurement) : Prop := left.untimed = right.untimed

theorem Workload.alike_measure [EntropySource ε] {kin : Generator ε → Generator ε → Prop}
    (draws : Generator.DrawAlike kin) (workload : Workload) (iterations : Nat) :
    Probing.Alike kin Measurement.Alike (workload.measure iterations : Probing ε Measurement)
      (workload.measure iterations) := by
  apply (workload.steady_prepare draws iterations).bind
  intro prepared
  apply (Probing.alike_ofAttempt Attempt.alike_instant).bind
  intro start begun _
  apply Probing.Steady.bind
    (Probing.alike_ofAttempt (workload.steady_iterate prepared iterations))
  intro _
  apply (Probing.alike_ofAttempt Attempt.alike_instant).bind
  intro stop ended _
  exact Probing.alike_pure rfl

namespace ParallelCase

variable [EntropySource ε] {kin : Generator ε → Generator ε → Prop}

open Attempt Probing

theorem steady_worker (value : Bytes) (index units : Nat) :
    Attempt.Steady (worker value index units) := by
  rw [worker, forEachFrom_eq_forM]
  apply steady_forM
  intro number
  let key := Key.unit index number
  have puts : Attempt.Steady (call (.put key value)) := steady_call nofun
  have gets : Attempt.Steady (call (.get key)) := steady_call nofun
  refine puts.bind fun _ => gets.bind fun found => ?_
  split
  · exact Attempt.steady_pure ()
  · exact steady_throw _

theorem steady_crew (schedule : List Nat) (value : Bytes) (workers total : Nat) :
    Attempt.Steady (ExceptT.lift (Script.interleave schedule (crew value workers total)) :
      Attempt (List (Outcome Unit))) := by
  let pairs := (crew value workers total).map fun script => (script, script)
  have each : ∀ pair ∈ pairs, Script.Alike Eq pair.1 pair.2 := by
    intro pair member
    obtain ⟨script, works, rfl⟩ := List.mem_map.mp member
    obtain ⟨index, _, rfl⟩ := List.mem_map.mp works
    exact Script.Alike.mono (steady_worker value index _) fun _ _ => Outcome.alike_eq_iff.mp
  have firsts : pairs.map Prod.fst = crew value workers total :=
    (List.map_map).trans (List.map_id _)
  have seconds : pairs.map Prod.snd = crew value workers total :=
    (List.map_map).trans (List.map_id _)
  have together : Script.Alike Eq (Script.interleave schedule (pairs.map Prod.fst))
      (Script.interleave schedule (pairs.map Prod.snd)) := Script.Alike.interleave each
  rw [firsts, seconds] at together
  apply together.bind
  rintro outcomes _ rfl
  exact .done (.ok rfl)

theorem alike_measure (draws : Generator.DrawAlike kin) (case : ParallelCase)
    (schedule : List Nat) (workers total : Nat) :
    Probing.Alike kin Measurement.Alike
      (case.measure schedule workers total : Probing ε Measurement)
      (case.measure schedule workers total) := by
  apply (steady_draw (draws.value case.valueSize)).bind
  intro value
  apply (alike_ofAttempt alike_instant).bind
  intro start begun _
  apply Probing.Steady.bind (alike_ofAttempt (steady_crew schedule value _ total))
  intro outcomes
  apply (alike_ofAttempt alike_instant).bind
  intro stop ended _
  split
  · apply Probing.Steady.bind (alike_ofAttempt (steady_log _))
    intro _
    exact alike_ofAttempt (.done (.error _))
  · exact Probing.alike_pure rfl

end ParallelCase

end StoreTrial
