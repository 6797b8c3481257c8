import StoreTrial.Proofs.SampleTeardown
import StoreTrial.Proofs.ServingWorlds

/-! # Samples one after another

Samples that one sampler takes do not see each other: each starts on an empty store, makes the
calls, notes the failures and has the result that it would have had as the only one, and leaves the
files as they were (`StoreTrial.Sampler.samples_are_isolated`). Their payloads come from a source
that forgets what was drawn from it, nothing is planted behind the opener, and their locations are
vacant.
-/

namespace StoreTrial

variable {ε γ : Type} [EntropySource ε] [EntropySource γ]

/-! ## Sources that forget -/

namespace EntropySource

def after (source : ε) (counts : List Nat) : ε :=
  counts.foldl (fun source count => (fill source count).2) source

/-- What a source gives does not depend on what was asked of it before. Why it gives nothing may. -/
def Forgets (source : ε) : Prop :=
  ∀ counts count, (fill (after source counts) count).1.toOption = (fill source count).1.toOption

end EntropySource

namespace Generator

/-- A generator with the seed of another and a source that comes from its source. -/
structure Descends (start generator : Generator γ) : Prop where
  seed : generator.seed = start.seed
  source : ∃ counts, generator.source = EntropySource.after start.source counts

theorem Descends.refl (start : Generator γ) : Descends start start := ⟨rfl, [], rfl⟩

theorem Descends.fill {start generator : Generator γ} (descends : Descends start generator)
    (count : Nat) :
    Descends start { generator with source := (EntropySource.fill generator.source count).2 } := by
  obtain ⟨counts, same⟩ := descends.source
  refine ⟨descends.seed, counts ++ [count], ?_⟩
  have later : EntropySource.after start.source (counts ++ [count]) =
      (EntropySource.fill (EntropySource.after start.source counts) count).2 :=
    List.foldl_append
  rw [later, ← same]

def Siblings (start first second : Generator γ) : Prop :=
  Descends start first ∧ Descends start second

theorem drawAlike_of_forgets {start : Generator γ} (forgets : EntropySource.Forgets start.source) :
    DrawAlike (Siblings start) where
  seed _ _ siblings := siblings.1.seed.trans siblings.2.seed.symm
  fill first second count siblings := by
    obtain ⟨counts, same⟩ := siblings.1.source
    obtain ⟨others, sameThere⟩ := siblings.2.source
    refine ⟨?_, siblings.1.fill count, siblings.2.fill count⟩
    rw [same, sameThere, forgets, forgets]
  report _ _ siblings :=
    ⟨⟨siblings.1.seed, siblings.1.source⟩, ⟨siblings.2.seed, siblings.2.source⟩⟩

end Generator

/-! ## One sample -/

namespace World

def Site.lease (site : Site) (owner : Trial) : Lease where
  location := site.location
  handle := site.handle
  owner := owner
  released := false

variable {time : Nat → Nat} {world : World} {site : Site} {store : Store}

/-- A lease that serves is given back without a failure, and then the files are those without its
location. -/
theorem Serves.does_release (serves : world.Serves site store false) (owner : Trial) :
    ∃ after, Dialogue.Does (answerAt time) (site.lease owner).release world
        [⟨.call site.handle .close, .ok ()⟩, ⟨.clear site.location, .ok ()⟩]
        (.ok (), { site.lease owner with released := true }) after ∧
      after.Rests site.opener site.files := by
  obtain ⟨closed, closes, still⟩ := serves.close
  obtain ⟨cleared, clears, rests⟩ := still.clear
  have closing : answerAt time (.call site.handle .close) world = (.ok (), closed) := closes
  have clearing : answerAt time (.clear site.location) closed = (.ok (), cleared) := clears
  let last := cleared.report ((site.lease owner).removalEvent (.ok ()))
  have removes : Dialogue.Does (answerAt time) (site.lease owner).removeLocation closed
      [⟨.clear site.location, .ok ()⟩] () last := by
    rw [Lease.removeLocation_eq]
    exact .asked clearing (Dialogue.does_log _ _)
  have gives : Dialogue.Does (answerAt time) (site.lease owner).giveBack.dialogue world
      [⟨.call site.handle .close, .ok ()⟩, ⟨.clear site.location, .ok ()⟩] (.ok ()) last := by
    rw [Lease.dialogue_giveBack]
    exact .asked closing (removes.bind (.done _ _))
  exact ⟨last, gives.bind (.done _ _), rests.plain, rests.disk⟩

variable {opener : Opener} {files : Disk}

/-- Where a lease works that is taken at a vacant location. -/
def siteOf (world : World) (provisioner : Provisioner ε) (name : String) (root : Place)
    (files : Disk) : Site where
  opener := provisioner.opener
  base := provisioner.settings.tempRoot
  name := name
  root := root
  syncWrites := provisioner.settings.syncWrites
  handle := world.engines.size
  files := files

/-- At a vacant location a lease is granted, and its engine serves with an empty store. -/
theorem Rests.does_lease {provisioner : Provisioner ε}
    (rests : world.Rests provisioner.opener files)
    (valid : provisioner.settings.validate = .ok ()) {suffix : Filled Location.suffixSize}
    (drawn : (EntropySource.fill provisioner.source Location.suffixSize).1 = .ok suffix)
    {root : Place}
    (vacant : Location.Vacant provisioner.settings.tempRoot
      (Location.name provisioner.settings.stem (time world.clock) suffix) root files)
    (owner : Trial) :
    let site := world.siteOf provisioner
      (Location.name provisioner.settings.stem (time world.clock) suffix) root files
    ∃ leased, Dialogue.Does (answerAt time)
        (Provisioner.dialogue (Provisioner.lease owner) provisioner) world
        [⟨.openAt site.opener site.location
          (Provisioner.optionsAt provisioner.settings site.location), .ok site.handle⟩]
        (.ok (site.lease owner), { provisioner with
          source := (EntropySource.fill provisioner.source Location.suffixSize).2 }) leased ∧
      leased.Serves site .empty false := by
  intro site
  have ticked : world.tick.2.Rests provisioner.opener files := ⟨rests.plain, rests.disk⟩
  obtain ⟨opened, opens, serves⟩ := ticked.openAt vacant provisioner.settings.syncWrites
  refine ⟨opened.report (.instanceProvisioned site.location), ?_,
    ⟨serves.mounted, serves.plain, serves.added⟩⟩
  rw [Provisioner.dialogue_lease, valid]
  dsimp only
  have clock : answerAt time .clock world = ((time world.clock : Int), world.tick.2) := rfl
  have filled : EntropySource.fill provisioner.source Location.suffixSize =
      (.ok suffix, (EntropySource.fill provisioner.source Location.suffixSize).2) :=
    Prod.ext drawn rfl
  apply Dialogue.Does.asked clock
  rw [Provisioner.choice_of_drawn _ filled]
  dsimp only
  have openAt : answerAt time (.openAt provisioner.opener site.location
      (Provisioner.optionsAt provisioner.settings site.location)) world.tick.2 =
        (.ok site.handle, opened) := opens
  exact .asked openAt ⟨rfl, rfl⟩

end World

/-! ## Accounts of samples -/

/-- The call of an exchange, if it is one, without the handle. -/
def Exchange.call? : Exchange → Option AnsweredCall
  | ⟨.call _ request, reply⟩ => some ⟨request, reply⟩
  | _ => none

/-- The failure that an exchange notes, if it is one. -/
def Exchange.note? : Exchange → Option (Ledger × String)
  | ⟨.note ledger message, _⟩ => some (ledger, message)
  | _ => none

theorem Exchange.filterMap_call? (handle : Handle) (calls : List AnsweredCall) :
    (calls.map (·.on handle)).filterMap call? = calls := by
  rw [List.filterMap_map]
  exact List.filterMap_some

theorem Exchange.filterMap_note? (handle : Handle) (calls : List AnsweredCall) :
    (calls.map (·.on handle)).filterMap note? = [] := by
  rw [List.filterMap_map, List.filterMap_eq_nil_iff]
  exact fun _ _ => rfl

namespace Sampler

/-- What is seen of a sample: the store that its engine starts with, the calls on the engine with
what they were answered, the failures that are noted, and the result without its time. -/
structure Account where
  start : Option Store
  calls : List AnsweredCall
  failures : List (Ledger × String)
  result : Outcome Measurement

/-- The store of the engine that is leased first. -/
def startingStore (time : Nat → Nat) (state : Sampler ε γ × World) (trial : Trial) :
    Option Store :=
  let leased := (Provisioner.dialogue (Provisioner.lease trial) state.1.provisioner).run
    (World.answerAt time) state.2
  match leased.1.1 with
  | .ok lease => (leased.2.engine? lease.handle).map MemoryEngine.store
  | .error _ => none

def account (time : Nat → Nat) (state : Sampler ε γ × World) (next : Trial × Sample) : Account :=
  let dialogue := state.1.sample next.1 next.2
  let deeds := dialogue.deeds (World.answerAt time) state.2
  { start := startingStore time state next.1
    calls := deeds.filterMap Exchange.call?
    failures := deeds.filterMap Exchange.note?
    result := (dialogue.run (World.answerAt time) state.2).1.1.map Measurement.untimed }

def afterSample (time : Nat → Nat) (state : Sampler ε γ × World) (next : Trial × Sample) :
    Sampler ε γ × World :=
  let ended := (state.1.sample next.1 next.2).run (World.answerAt time) state.2
  (ended.1.2, ended.2)

def afterSamples (time : Nat → Nat) (state : Sampler ε γ × World)
    (samples : List (Trial × Sample)) : Sampler ε γ × World :=
  samples.foldl (afterSample time) state

/-- The location that the next sample would name is vacant among these files. -/
def HasVacancy (time : Nat → Nat) (root : Place) (files : Disk) (state : Sampler ε γ × World) :
    Prop :=
  ∃ suffix, (EntropySource.fill state.1.provisioner.source Location.suffixSize).1 = .ok suffix ∧
    Location.Vacant state.1.provisioner.settings.tempRoot
      (Location.name state.1.provisioner.settings.stem (time state.2.clock) suffix) root files

instance decidableHasVacancy (time : Nat → Nat) (root : Place) (files : Disk)
    (state : Sampler ε γ × World) : Decidable (HasVacancy time root files state) :=
  match drawn : (EntropySource.fill state.1.provisioner.source Location.suffixSize).1 with
  | .error _ => isFalse fun ⟨_, found, _⟩ => nomatch drawn.symm.trans found
  | .ok suffix =>
      decidable_of_iff (Location.Vacant state.1.provisioner.settings.tempRoot
          (Location.name state.1.provisioner.settings.stem (time state.2.clock) suffix) root files)
        ⟨fun vacant => ⟨suffix, drawn, vacant⟩,
          fun ⟨_, found, vacant⟩ => Except.ok.inj (drawn.symm.trans found) ▸ vacant⟩

/-- A sampler and its world between two samples, compared with those before the first one. -/
structure Follows (start state : Sampler ε γ × World) : Prop where
  opener : state.1.provisioner.opener = start.1.provisioner.opener
  settings : state.1.provisioner.settings = start.1.provisioner.settings
  workers : state.1.workers = start.1.workers
  generator : start.1.generator.Descends state.1.generator
  rests : state.2.Rests start.1.provisioner.opener start.2.disk

/-- A sample has begun: a lease was granted, and its engine serves with an empty store. -/
structure Begins (time : Nat → Nat) (state : Sampler ε γ × World) (trial : Trial)
    (site : World.Site) (source : ε) (leased : World) : Prop where
  opens : Dialogue.Does (World.answerAt time)
    (Provisioner.dialogue (Provisioner.lease trial) state.1.provisioner) state.2
    [⟨.openAt site.opener site.location
      (Provisioner.optionsAt state.1.provisioner.settings site.location), .ok site.handle⟩]
    (.ok (site.lease trial), { state.1.provisioner with source := source }) leased
  serves : leased.Serves site .empty false

variable {time : Nat → Nat} {start state : Sampler ε γ × World} {root : Place} {trial : Trial}
  {sample : Sample} {site : World.Site} {source : ε} {leased : World}

theorem Follows.begins (follows : Follows start state)
    (valid : start.1.provisioner.settings.validate = .ok ())
    (vacancy : HasVacancy time root start.2.disk state) (trial : Trial) :
    ∃ site source leased, Begins time state trial site source leased ∧
      site.opener = start.1.provisioner.opener ∧ site.files = start.2.disk := by
  obtain ⟨suffix, drawn, vacant⟩ := vacancy
  have rests : state.2.Rests state.1.provisioner.opener start.2.disk := by
    rw [follows.opener]
    exact follows.rests
  rw [← follows.settings] at valid
  obtain ⟨leased, opens, serves⟩ := rests.does_lease valid drawn vacant trial
  exact ⟨_, _, leased, ⟨opens, serves⟩, follows.opener, rfl⟩

omit [EntropySource γ] in
theorem Begins.startingStore (begins : Begins time state trial site source leased) :
    startingStore time state trial = some .empty := by
  rw [Sampler.startingStore, begins.opens.run]
  change (leased.engine? site.handle).map MemoryEngine.store = some .empty
  rw [World.engine?, begins.serves.mounted]
  rfl

/-- The account of a sample by its run. -/
def accountOf (trial : Trial) (sample : Sample) (calls : List AnsweredCall)
    (outcome : Outcome Measurement) : Account where
  start := some .empty
  calls := calls ++ [⟨.close, .ok ()⟩]
  failures := (abortNotes trial sample.name outcome).filterMap Exchange.note?
  result := (verdict trial sample.name (.ok ()) outcome).map Measurement.untimed

theorem filterMap_call?_abortNotes (trial : Trial) (name : String) (outcome : Outcome Measurement) :
    (abortNotes trial name outcome).filterMap Exchange.call? = [] := by
  match outcome with
  | .ok _ | .error (.failed _) | .error (.panicked _) => rfl

theorem accountOf_congr {outcome other : Outcome Measurement}
    (alike : Outcome.Alike Measurement.Alike outcome other) (trial : Trial) (sample : Sample)
    (calls : List AnsweredCall) :
    accountOf trial sample calls outcome = accountOf trial sample calls other := by
  cases alike with
  | ok fine => exact congrArg (fun measurement => Account.mk _ _ _ (.ok measurement)) fine
  | error stop => rfl

/-- A sample that has begun ends as its run says, and leaves the files without its location. -/
theorem Begins.ends (begins : Begins time state trial site source leased)
    {calls : List AnsweredCall} {outcome : Outcome Measurement} {generator : Generator γ}
    {late : World} {store : Store}
    (runs : World.Runs time site ((sample.run state.1.workers).script state.1.generator) leased
      calls (outcome, generator) late store) :
    account time state (trial, sample) = accountOf trial sample calls outcome ∧
      ∃ after, afterSample time state (trial, sample) =
          ({ state.1 with
            provisioner := { state.1.provisioner with source := source }
            generator := generator }, after) ∧
        after.Rests site.opener site.files := by
  have releases : ∀ world : World, world.Serves site store false → ∃ made ending after,
      Dialogue.Does (World.answerAt time) (site.lease trial).release world made
          (ending, { site.lease trial with released := true }) after ∧
        made = [⟨.call site.handle .close, .ok ()⟩, ⟨.clear site.location, .ok ()⟩] ∧
          ending = .ok () ∧ after.Rests site.opener site.files := by
    intro world serves
    obtain ⟨after, gives, rests⟩ := serves.does_release trial
    exact ⟨_, _, after, gives, rfl, rfl, rests⟩
  obtain ⟨_, _, after, concludes, rfl, rfl, rests⟩ := does_conclude
    (fun _ _ serves => ⟨serves.mounted, serves.plain, serves.added⟩)
    (fun _ _ _ serves => ⟨serves.mounted, serves.plain, serves.added⟩)
    (fun _ _ _ _ given => ⟨given.1, given.2.1, given.2.2.plain, given.2.2.disk⟩)
    releases sample.name (sample.report trial state.1.workers) outcome late runs.serves
  have taken := does_take begins.opens runs.does concludes
  rw [← sample_eq_take] at taken
  refine ⟨?_, after, ?_, rests⟩
  · rw [account, accountOf]
    dsimp only
    rw [taken.deeds, taken.run, begins.startingStore]
    simp only [List.filterMap_append, Exchange.filterMap_call?, Exchange.filterMap_note?,
      filterMap_call?_abortNotes]
    exact Account.mk.injEq .. |>.mpr ⟨rfl, rfl, List.append_nil _, rfl⟩
  · rw [afterSample]
    dsimp only
    rw [taken.run]

/-- From any two states between the samples of a sampler the next sample has the same account. It
starts on an empty store, and the state after it is one between two samples again. -/
theorem Follows.account_eq {other : Sampler ε γ × World} (here : Follows start state)
    (there : Follows start other) (valid : start.1.provisioner.settings.validate = .ok ())
    (forgets : EntropySource.Forgets start.1.generator.source)
    (vacancy : HasVacancy time root start.2.disk state)
    (vacancyThere : HasVacancy time root start.2.disk other) (next : Trial × Sample) :
    account time state next = account time other next ∧
      (account time state next).start = some .empty ∧
        Follows start (afterSample time state next) := by
  obtain ⟨trial, sample⟩ := next
  obtain ⟨site, source, leased, begins, opener, files⟩ := here.begins valid vacancy trial
  obtain ⟨siteThere, sourceThere, leasedThere, beginsThere, -, -⟩ :=
    there.begins valid vacancyThere trial
  -- Both engines are empty and both generators come from the first one, so the runs are alike.
  have alike := sample.alike_run (Generator.drawAlike_of_forgets forgets) state.1.workers _ _
    ⟨here.generator, there.generator⟩
  obtain ⟨calls, ⟨outcome, generator⟩, ⟨outcomeThere, generatorThere⟩, late, lateThere, store,
    runs, runsThere, same, siblings⟩ :=
    World.runs_of_alike alike time time begins.serves beginsThere.serves
  rw [here.workers, ← there.workers] at runsThere
  obtain ⟨accounts, after, leaves, rests⟩ := begins.ends runs
  obtain ⟨accountsThere, -⟩ := beginsThere.ends runsThere
  refine ⟨?_, ?_, ?_⟩
  · rw [accounts, accountsThere, accountOf_congr same]
  · rw [accounts]
    rfl
  · rw [leaves]
    rw [opener, files] at rests
    exact ⟨here.opener, here.settings, here.workers, siblings.1, rests⟩

theorem afterSamples_take_succ (time : Nat → Nat) (start : Sampler ε γ × World)
    {samples : List (Trial × Sample)} {position : Nat} (inside : position < samples.length) :
    afterSamples time start (samples.take (position + 1)) =
      afterSample time (afterSamples time start (samples.take position)) samples[position] := by
  rw [List.take_succ_eq_append_getElem inside, afterSamples, List.foldl_append]
  rfl

/-- A sample after earlier ones has the account that it would have had as the only one, it starts on
an empty store, and it leaves the files as they were. -/
structure IsIsolated (time : Nat → Nat) (start : Sampler ε γ × World)
    (earlier : List (Trial × Sample)) (next : Trial × Sample) : Prop where
  account : account time (afterSamples time start earlier) next = account time start next
  empty : (Sampler.account time (afterSamples time start earlier) next).start = some .empty
  files : (afterSample time (afterSamples time start earlier) next).2.disk =
    (afterSamples time start earlier).2.disk

variable {sampler : Sampler ε γ} {world : World} {samples : List (Trial × Sample)}

theorem follows_afterSamples (plain : (world.rig sampler.provisioner.opener).IsPlain)
    (valid : sampler.provisioner.settings.validate = .ok ())
    (forgets : EntropySource.Forgets sampler.generator.source)
    (vacancies : ∀ position < samples.length, HasVacancy time root world.disk
      (afterSamples time (sampler, world) (samples.take position)))
    (position : Nat) (inside : position ≤ samples.length) :
    Follows (sampler, world) (afterSamples time (sampler, world) (samples.take position)) := by
  induction position with
  | zero => exact ⟨rfl, rfl, rfl, .refl _, plain, rfl⟩
  | succ position ih =>
      have vacancy := vacancies position inside
      rw [afterSamples_take_succ time _ inside]
      exact ((ih (Nat.le_of_succ_le inside)).account_eq (ih (Nat.le_of_succ_le inside)) valid
        forgets vacancy vacancy _).2.2

/-- **Samples that one sampler takes one after another are isolated**, however each of them ends.
Here the opener misbehaves nowhere, the payloads do not depend on what was drawn before, and the
name of each location is free in its directory. -/
theorem samples_are_isolated (time : Nat → Nat) (root : Place)
    (plain : (world.rig sampler.provisioner.opener).IsPlain)
    (valid : sampler.provisioner.settings.validate = .ok ())
    (forgets : EntropySource.Forgets sampler.generator.source)
    (vacancies : ∀ position < samples.length, HasVacancy time root world.disk
      (afterSamples time (sampler, world) (samples.take position)))
    (position : Nat) (inside : position < samples.length) :
    IsIsolated time (sampler, world) (samples.take position) samples[position] := by
  have follows := follows_afterSamples plain valid forgets vacancies position (Nat.le_of_lt inside)
  have first := follows_afterSamples plain valid forgets vacancies 0 (Nat.zero_le _)
  have alone := vacancies 0 (Nat.zero_lt_of_lt inside)
  obtain ⟨same, empty, still⟩ := follows.account_eq first valid forgets
    (vacancies position inside) alone samples[position]
  exact ⟨same, empty, still.rests.disk.trans follows.rests.disk.symm⟩

/-- Nothing is ever drawn from a source that is not available. -/
theorem forgets_unavailable : EntropySource.Forgets Source.unavailable := by
  intro counts count
  have stays : EntropySource.after Source.unavailable counts = Source.unavailable := by
    induction counts with
    | nil => rfl
    | cons first rest ih => exact ih
  rw [stays]

/-- The first of three samples panics, and the second one fails. -/
theorem samples_are_isolated_after_panic :
    let settings : Settings := ⟨"tmp", "kv", 42, 2, false, "info"⟩
    let sampler : Sampler Source Source :=
      ⟨⟨0, settings, .planned #[.pattern #[7]] 0⟩, { source := .unavailable, seed := 42 }, 2⟩
    let start := (sampler, World.fresh "tmp" 0)
    let trial : Trial := ⟨.bench, "b", 0⟩
    let plan : Plan := { name := "blank", keySize := 4, valueSize := 0, items := 1, mix := .mixed }
    let panics : Trial × Sample := (trial, .workload (.mixed plan) 2)
    let fails : Trial × Sample := (trial, .workload (.randomGet 0 3) 2)
    let parallel : Trial × Sample := (trial, .parallel ⟨2⟩ [1, 0] 2)
    let time : Nat → Nat := fun tick => 7 * tick + 5
    (account time start panics).result =
        .error (.panicked "assertion failed: mid <= self.len()") ∧
      (account time start fails).result = .error (.panicked
        "b: random_get_0 aborted: Invalid operation: random access needs a non-empty population") ∧
      IsIsolated time start [panics, fails] parallel := by
  intro settings sampler start trial plan panics fails parallel time
  let samples := [panics, fails, parallel]
  have vacancies : ∀ position < samples.length, HasVacancy time ["tmp"] start.2.disk
      (afterSamples time start (samples.take position)) := by
    decide +kernel
  exact ⟨by decide +kernel, by decide +kernel, samples_are_isolated time ["tmp"] ⟨rfl, rfl⟩
    (by decide +kernel) forgets_unavailable vacancies 2 (by decide)⟩

end Sampler

end StoreTrial
