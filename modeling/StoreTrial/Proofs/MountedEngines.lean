import StoreTrial.Host.World

/-! # Engines behind their handles

When nothing is planted before an engine, it answers what is asked of its handle
(`StoreTrial.World.call_of_unplanted`). A call leaves what is behind every other handle as it is,
and what is planted stays planted (`StoreTrial.World.keeps_call`).
-/

namespace StoreTrial

/-- What is planted in a rig: the faults, and why no engine can be opened behind it. -/
def Rig.planted (rig : Rig) : List Fault × Option Failure := (rig.faults, rig.refusal)

namespace World

variable {world left last : World} {handle other : Handle} {engine called : MemoryEngine}

theorem rig_setRig (world : World) (opener : Opener) (rig : Rig) :
    (world.setRig opener rig).rig opener = rig := by
  simp [World.rig, setRig, place]

theorem rig_setRig_of_ne (world : World) {opener other : Opener} (different : other ≠ opener)
    (rig : Rig) : (world.setRig opener rig).rig other = world.rig other := by
  rw [World.rig, setRig, place, Lookup.lookup_entry_cons, if_neg different,
    Lookup.lookup_filter_ne, if_neg different]
  rfl

/-- The same is behind a handle in another world, and the same is planted there. -/
structure Keeps (world : World) (handle : Handle) (left : World) : Prop where
  engines : left.engines[handle]? = world.engines[handle]?
  planted : ∀ opener, (left.rig opener).planted = (world.rig opener).planted

theorem Keeps.trans (first : world.Keeps handle left) (second : left.Keeps handle last) :
    world.Keeps handle last :=
  ⟨second.engines.trans first.engines,
    fun opener => (second.planted opener).trans (first.planted opener)⟩

theorem keeps_refl (world : World) (handle : Handle) : world.Keeps handle world :=
  ⟨rfl, fun _ => rfl⟩

/-- A record of a call leaves everything but the record as it is. -/
theorem keeps_record (world : World) (handle : Handle) (opener : Opener) (request : Request) :
    world.Keeps handle (world.setRig opener ((world.rig opener).record request)) := by
  refine ⟨rfl, fun other => ?_⟩
  by_cases same : other = opener
  · subst same
    rw [rig_setRig]
    rfl
  · rw [rig_setRig_of_ne world same]

/-- A call on an engine changes files, engines and the journal at most. -/
theorem exists_callEngine_eq (world : World) (handle : Handle) (request : Request) :
    ∃ disk engines journal, (world.callEngine handle request).2 =
      { world with disk := disk, engines := engines, journal := journal } := by
  rw [callEngine]
  split
  · exact ⟨_, _, _, rfl⟩
  · dsimp only
    split
    · cases request <;> exact ⟨_, _, _, rfl⟩
    · exact ⟨_, _, _, rfl⟩

theorem rigs_callEngine (world : World) (handle : Handle) (request : Request) :
    (world.callEngine handle request).2.rigs = world.rigs := by
  obtain ⟨disk, engines, journal, left⟩ := world.exists_callEngine_eq handle request
  rw [left]

/-- What neither a record nor a call on an engine changes is unchanged by a call through a rig,
whatever is planted in it. -/
theorem view_call {ν : Type} {view : World → ν} {request : Request}
    (recorded : ∀ world opener rig, view (setRig world opener rig) = view world)
    (called : ∀ world, view (callEngine world handle request).2 = view world) (world : World) :
    view (world.call handle request).2 = view world := by
  have faulty : ∀ fault world, view (callAtFault world handle fault request).2 = view world := by
    intro fault world
    have kept := called world
    rw [callAtFault]
    split
    · split
      · rename_i answered
        rwa [answered] at kept
      · rename_i answered
        rwa [answered] at kept
    · rfl
  rw [call]
  split
  · exact called world
  · rename_i opener _
    have noted := recorded world opener ((world.rig opener).record request)
    dsimp only
    split
    · exact (faulty _ _).trans noted
    · exact (called _).trans noted

theorem engines_callEngine_of_ne (world : World) (different : handle ≠ other)
    (request : Request) :
    (world.callEngine other request).2.engines[handle]? = world.engines[handle]? := by
  rw [callEngine]
  split
  · rfl
  · dsimp only
    split
    · cases request <;> exact Array.getElem?_setIfInBounds_ne different.symm
    · exact Array.getElem?_setIfInBounds_ne different.symm

theorem keeps_callEngine (world : World) (different : handle ≠ other) (request : Request) :
    world.Keeps handle (world.callEngine other request).2 where
  engines := engines_callEngine_of_ne world different request
  planted := fun opener => by rw [rig, rigs_callEngine]; rfl

theorem keeps_callAtFault (world : World) (different : handle ≠ other) (fault : Fault)
    (request : Request) : world.Keeps handle (world.callAtFault other fault request).2 := by
  have keeps := keeps_callEngine world different request
  rw [callAtFault]
  split
  · split
    · rename_i called
      rwa [called] at keeps
    · rename_i called
      rwa [called] at keeps
  · exact keeps_refl world handle

/-- A call on a handle keeps what is behind another. -/
theorem keeps_call (world : World) (different : handle ≠ other) (request : Request) :
    world.Keeps handle (world.call other request).2 := by
  rw [call]
  split
  · exact keeps_callEngine world different request
  · rename_i opener _
    have recorded := keeps_record world handle opener request
    dsimp only
    split
    · exact recorded.trans (keeps_callAtFault _ different _ request)
    · exact recorded.trans (keeps_callEngine _ different request)

theorem keeps_openAt (world : World) (inside : handle < world.engines.size) (opener : Opener)
    (location : String) (options : EngineOptions) :
    world.Keeps handle (world.openAt opener location options).2 := by
  rw [openAt]
  split
  · exact keeps_refl world handle
  · rw [mount]
    dsimp only
    split
    · exact ⟨rfl, fun _ => rfl⟩
    · refine ⟨?_, fun _ => rfl⟩
      exact Array.getElem?_push_lt inside |>.trans (Array.getElem?_eq_getElem inside).symm

variable {rig : Option Opener} {request : Request} {result : Except Failure request.Answer}
  {disk : Disk}

theorem callEngine_of_mounted (mounted : world.engines[handle]? = some ⟨engine, rig⟩)
    (answered : engine.answer world.disk request = (result, called, disk)) :
    ∃ left, world.callEngine handle request = (result, left) ∧
      left.engines[handle]? = some ⟨called, rig⟩ ∧ left.disk = disk ∧
        left.rigs = world.rigs := by
  have inside : handle < world.engines.size := (Array.getElem?_eq_some_iff.mp mounted).1
  have remounted : (world.engines.setIfInBounds handle ⟨called, rig⟩)[handle]? =
      some ⟨called, rig⟩ :=
    Array.getElem?_setIfInBounds_self_of_lt inside
  rw [callEngine, mounted]
  dsimp only
  rw [answered]
  cases result with
  | error failure => exact ⟨_, rfl, remounted, rfl, rfl⟩
  | ok value =>
      refine ⟨_, rfl, ?_⟩
      cases request <;> exact ⟨remounted, rfl, rfl⟩

/-- A call on a handle with no fault planted before its engine is answered by the engine. -/
theorem call_of_unplanted (mounted : world.engines[handle]? = some ⟨engine, rig⟩)
    (unplanted : ∀ opener, rig = some opener → (world.rig opener).faults = [])
    (answered : engine.answer world.disk request = (result, called, disk)) :
    ∃ left, world.call handle request = (.ofResult result, left) ∧
      left.engines[handle]? = some ⟨called, rig⟩ ∧ left.disk = disk ∧
        ∀ opener, (left.rig opener).planted = (world.rig opener).planted := by
  rw [call, mounted]
  cases rig with
  | none =>
      obtain ⟨left, calls, remounted, same, rigs⟩ := callEngine_of_mounted mounted answered
      dsimp only [Option.bind_some]
      rw [calls]
      exact ⟨left, rfl, remounted, same, fun opener => by rw [World.rig, rigs]; rfl⟩
  | some opener =>
      -- The call is recorded, and no fault is found for it.
      have recorded := keeps_record world handle opener request
      obtain ⟨left, calls, remounted, same, rigs⟩ :=
        callEngine_of_mounted (recorded.engines.trans mounted) answered
      have unmet : ((world.rig opener).record request).faultFor request = none := by
        rw [Rig.faultFor]
        exact congrArg (List.find? _) (unplanted opener rfl)
      dsimp only [Option.bind_some]
      rw [unmet]
      dsimp only
      rw [calls]
      refine ⟨left, rfl, remounted, same, fun other => ?_⟩
      rw [← recorded.planted other, World.rig, rigs]
      rfl

end World

end StoreTrial
