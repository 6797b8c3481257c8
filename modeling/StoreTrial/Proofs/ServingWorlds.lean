import StoreTrial.Proofs.AlikeScripts
import StoreTrial.Proofs.LeaseDialogues
import StoreTrial.Proofs.MountedEngines
import StoreTrial.Proofs.VacantLocations

/-! # Worlds that serve

A world without planted faults serves an engine at a location that was added to its files
(`StoreTrial.World.Serves`): every call is answered as the store says, and giving the engine back
leaves the files as they were before. Scripts that probe alike run alike in two such worlds,
whatever their clocks show (`StoreTrial.World.runs_of_alike`).
-/

namespace StoreTrial

namespace MemoryEngine

variable {μ : Type} {save : Save μ} {fine : μ → Prop}

theorem keep_of_saves (saves : ∀ store medium, fine medium →
      ∃ saved, save store medium = (.ok (), saved) ∧ fine saved)
    (engine : MemoryEngine) (store : Store) {medium : μ} (holds : fine medium) :
    ∃ saved, engine.keep save store medium = (.ok (), { engine with store := store }, saved) ∧
      fine saved := by
  by_cases sync : engine.syncWrites = true
  · obtain ⟨saved, wrote, still⟩ := saves store medium holds
    exact ⟨saved, by rw [keep_of_syncWrites sync, wrote], still⟩
  · exact ⟨medium, keep_of_not_syncWrites (by simpa using sync) store, holds⟩

/-- If every save succeeds, a call is answered as the store says. -/
theorem perform_of_saves (saves : ∀ store medium, fine medium →
      ∃ saved, save store medium = (.ok (), saved) ∧ fine saved)
    (engine : MemoryEngine) (request : Request) {medium : μ} (holds : fine medium) :
    ∃ saved, engine.perform save medium request =
        (request.answered engine.store,
          { engine with store := request.applied engine.store }, saved) ∧
      fine saved := by
  cases request with
  | put key value => exact keep_of_saves saves engine _ holds
  | get key =>
      refine ⟨medium, ?_, holds⟩
      rw [perform, Request.answered]
      cases engine.store.get? key <;> rfl
  | delete key =>
      rw [perform]
      split
      · exact keep_of_saves saves engine _ holds
      · rename_i absent
        refine ⟨medium, ?_, holds⟩
        rw [Request.applied, Store.erase_of_not_contains (by simpa using absent)]
        rfl
  | contains key => exact ⟨medium, rfl, holds⟩
  | close =>
      obtain ⟨saved, wrote, still⟩ := saves engine.store medium holds
      exact ⟨saved, by rw [perform, wrote]; rfl, still⟩

end MemoryEngine

/-- Nothing is planted in a rig. -/
structure Rig.IsPlain (rig : Rig) : Prop where
  faults : rig.faults = []
  refusal : rig.refusal = none

theorem Rig.IsPlain.of_planted {rig other : Rig} (plain : rig.IsPlain)
    (same : other.planted = rig.planted) : other.IsPlain := by
  obtain ⟨faults, refusal⟩ := Prod.mk.inj same
  exact ⟨faults.trans plain.faults, refusal.trans plain.refusal⟩

namespace World

/-- Answers as the world does, with a clock that shows the given times one after another. -/
def answerAt (time : Nat → Nat) : (question : Question) → World → question.Reply × World
  | .clock, world => (time world.clock, world.tick.2)
  | .instant, world => (time world.clock, world.tick.2)
  | question, world => world.answer question

/-- Where an engine works: behind which rig, under which name in which directory, how it saves,
behind which handle, and the files without it. -/
structure Site where
  opener : Opener
  base : String
  name : String
  root : Place
  syncWrites : Bool
  handle : Handle
  files : Disk

namespace Site

def location (site : Site) : String := Path.join site.base site.name

def engine (site : Site) (store : Store) (closed : Bool) : MemoryEngine where
  path := site.location
  syncWrites := site.syncWrites
  store := store
  closed := closed

end Site

/-- The engine of a site is there, with its store. -/
structure Serves (world : World) (site : Site) (store : Store) (closed : Bool) : Prop where
  mounted : world.engines[site.handle]? = some ⟨site.engine store closed, some site.opener⟩
  plain : (world.rig site.opener).IsPlain
  added : Location.Added site.base site.name site.root site.files world.disk

/-- Nothing is planted behind an opener, and these are the files. -/
structure Rests (world : World) (opener : Opener) (files : Disk) : Prop where
  plain : (world.rig opener).IsPlain
  disk : world.disk = files

variable {world : World} {site : Site} {store : Store}

/-- What an unspoilt call on the engine of a site leaves. -/
theorem Serves.call_eq {closed : Bool} (serves : world.Serves site store closed)
    (request : Request) {result : Except Failure request.Answer} {engine : MemoryEngine}
    {disk : Disk}
    (called : (site.engine store closed).answer world.disk request = (result, engine, disk)) :
    ∃ left, world.call site.handle request = (.ofResult result, left) ∧
      left.engines[site.handle]? = some ⟨engine, some site.opener⟩ ∧
      (left.rig site.opener).IsPlain ∧ left.disk = disk := by
  have unplanted : ∀ opener, some site.opener = some opener → (world.rig opener).faults = [] := by
    rintro opener ⟨⟩
    exact serves.plain.faults
  obtain ⟨left, calls, mounted, same, planted⟩ :=
    call_of_unplanted serves.mounted unplanted called
  exact ⟨left, calls, mounted, serves.plain.of_planted (planted _), same⟩

/-- The engine of a site answers a call as its store says, and goes on with the changed store. -/
theorem Serves.call (serves : world.Serves site store false) {request : Request}
    (stays : request ≠ .close) :
    ∃ left, world.call site.handle request = (.ofResult (request.answered store), left) ∧
      left.Serves site (request.applied store) false := by
  have saves : ∀ store medium, Location.Added site.base site.name site.root site.files medium →
      ∃ saved, (site.engine store false).save store medium = (.ok (), saved) ∧
        Location.Added site.base site.name site.root site.files saved :=
    fun store _ added => added.save store
  obtain ⟨disk, performed, added⟩ :=
    MemoryEngine.perform_of_saves saves (site.engine store false) request serves.added
  have called : (site.engine store false).answer world.disk request =
      (request.answered store, site.engine (request.applied store) false, disk) := by
    rw [MemoryEngine.answer, MemoryEngine.call_of_open rfl stays]
    exact performed
  obtain ⟨left, answered, mounted, plain, rfl⟩ := serves.call_eq request called
  exact ⟨left, answered, mounted, plain, added⟩

theorem Serves.close (serves : world.Serves site store false) :
    ∃ left, world.call site.handle .close = (.ok (), left) ∧ left.Serves site store true := by
  obtain ⟨disk, saved, added⟩ := serves.added.save store
  have called : (site.engine store false).answer world.disk .close =
      (.ok (), site.engine store true, disk) := by
    rw [MemoryEngine.answer, MemoryEngine.call_close_of_open rfl]
    change ((SnapshotFile.save site.location store world.disk).1, _,
      (SnapshotFile.save site.location store world.disk).2) = _
    rw [Site.location, saved]
    rfl
  obtain ⟨left, answered, mounted, plain, rfl⟩ := serves.call_eq .close called
  exact ⟨left, answered, mounted, plain, added⟩

/-- When the location of a site is removed the files are those without it. -/
theorem Serves.clear {closed : Bool} (serves : world.Serves site store closed) :
    ∃ left, world.clear site.location = (.ok (), left) ∧ left.Rests site.opener site.files := by
  refine ⟨{ world with disk := site.files }, ?_, serves.plain, rfl⟩
  rw [World.clear, Site.location, serves.added.removeTree]

/-- An engine that is opened at a vacant location serves with an empty store. -/
theorem Rests.openAt {opener : Opener} {files : Disk} (rests : world.Rests opener files)
    {base name : String} {root : Place} (vacant : Location.Vacant base name root files)
    (syncWrites : Bool) :
    ∃ left, world.openAt opener (Path.join base name)
        { path := Path.join base name, syncWrites := syncWrites } =
          (.ok world.engines.size, left) ∧
      left.Serves ⟨opener, base, name, root, syncWrites, world.engines.size, files⟩ .empty
        false := by
  obtain ⟨disk, opened, added⟩ := vacant.openAt syncWrites
  rw [World.openAt, rests.plain.refusal, rests.disk]
  dsimp only
  rw [opened]
  refine ⟨_, rfl, ?_, rests.plain, added⟩
  exact Array.getElem?_push_size

end World

abbrev AnsweredCall := (request : Request) × Outcome request.Answer

def AnsweredCall.on (handle : Handle) (call : AnsweredCall) : Exchange :=
  ⟨.call handle call.1, call.2⟩

namespace World

variable {α : Type} {time : Nat → Nat} {site : Site} {before after : World} {store last : Store}
  {calls : List AnsweredCall} {value : α}

/-- A script calls the engine of a site and leaves it serving with a store. -/
structure Runs (time : Nat → Nat) (site : Site) (script : Script Probe.Reply α) (before : World)
    (calls : List AnsweredCall) (value : α) (after : World) (store : Store) : Prop where
  does : Dialogue.Does (answerAt time) (script.interpret (Probe.on site.handle)) before
    (calls.map (·.on site.handle)) value after
  serves : after.Serves site store false

theorem Runs.call {request : Request} {next : Outcome request.Answer → Script Probe.Reply α}
    {middle : World} {reply : Outcome request.Answer}
    (called : before.call site.handle request = (reply, middle))
    (later : Runs time site (next reply) middle calls value after last) :
    Runs time site (.ask (.call request) next) before (⟨request, reply⟩ :: calls) value after
      last := by
  have replied : answerAt time (.call site.handle request) before = (reply, middle) := called
  exact ⟨.asked replied later.does, later.serves⟩

/-- **Scripts that probe alike run alike on engines that serve with one store.** They make the same
calls and are answered alike, whatever their clocks show. -/
theorem runs_of_alike {valued : α → α → Prop} {left right : Script Probe.Reply α}
    (alike : Script.Alike valued left right) (time other : Nat → Nat) {first second : Site}
    {one two : World} (here : one.Serves first store false)
    (there : two.Serves second store false) :
    ∃ calls value valueThere oneAfter twoAfter last,
      Runs time first left one calls value oneAfter last ∧
        Runs other second right two calls valueThere twoAfter last ∧ valued value valueThere := by
  -- Each step leaves both engines serving with one store, so both are answered alike.
  induction alike generalizing one two store with
  | done fine =>
      exact ⟨[], _, _, one, two, store, ⟨.done _ _, here⟩, ⟨.done _ _, there⟩, fine⟩
  | @call request left right stays later ih =>
      obtain ⟨oneNext, called, serves⟩ := here.call stays
      obtain ⟨twoNext, calledThere, servesThere⟩ := there.call stays
      obtain ⟨calls, value, valueThere, oneAfter, twoAfter, last, runs, runsThere, fine⟩ :=
        ih _ serves servesThere
      exact ⟨_, value, valueThere, oneAfter, twoAfter, last, runs.call called,
        runsThere.call calledThere, fine⟩
  | instant later ih =>
      -- A reading of the clock leaves the engines and the files as they are.
      have still : one.tick.2.Serves first store false :=
        ⟨here.mounted, here.plain, here.added⟩
      have stillThere : two.tick.2.Serves second store false :=
        ⟨there.mounted, there.plain, there.added⟩
      obtain ⟨calls, value, valueThere, oneAfter, twoAfter, last, runs, runsThere, fine⟩ :=
        ih _ _ still stillThere
      exact ⟨calls, value, valueThere, oneAfter, twoAfter, last, ⟨.ask runs.does, runs.serves⟩,
        ⟨.ask runsThere.does, runsThere.serves⟩, fine⟩
  | @log event eventThere left right later ih =>
      have still : (one.report event).Serves first store false :=
        ⟨here.mounted, here.plain, here.added⟩
      have stillThere : (two.report eventThere).Serves second store false :=
        ⟨there.mounted, there.plain, there.added⟩
      obtain ⟨calls, value, valueThere, oneAfter, twoAfter, last, runs, runsThere, fine⟩ :=
        ih still stillThere
      exact ⟨calls, value, valueThere, oneAfter, twoAfter, last, ⟨.ask runs.does, runs.serves⟩,
        ⟨.ask runsThere.does, runsThere.serves⟩, fine⟩

end World

end StoreTrial
