import StoreTrial.Host.Handwork
import StoreTrial.Host.World
import StoreTrial.Workload.Parallel

/-! # Rehearsals

One run of a workload on an engine behind a rig, at a new location, and what can be
seen of it afterwards: its outcome, the calls it made, and what the engine held and
saved.
-/

namespace StoreTrial

/-- What is seen of a run. -/
structure Rehearsal where
  outcome : Outcome Measurement
  /-- The calls of the run, in order. -/
  rig : Rig
  /-- The number of keys after the run. -/
  size : Except Failure Nat
  closed : Except Failure Unit
  /-- The snapshot file after the engine was closed. -/
  file : Option Bytes
  world : World

namespace Rehearsal

/-- Puts entries into an engine behind its rig, whatever comes of it. -/
def preload (handle : Handle) (world : World) (entries : List (Bytes × Bytes)) : World :=
  entries.foldl (fun world entry => (world.callEngine handle (.put entry.1 entry.2)).2) world

/-- The number of keys behind a handle. -/
def sizeOf (world : World) (handle : Handle) : Except Failure Nat :=
  match world.engine? handle with
  | some engine => engine.size
  | none => .error World.strayFailure

/-- Opens an engine behind a rig with faults, puts the entries into it, runs, and
closes it. Only the calls of the run go through the rig. -/
def perform {ε : Type} (world : World) (faults : List Fault) (options : EngineOptions)
    (entries : List (Bytes × Bytes)) (run : Probing ε Measurement) (generator : Generator ε) :
    Except Failure Rehearsal :=
  let opener : Opener := 0
  let (opened, world) :=
    (world.setRig opener { faults := faults }).openAt opener options.path options
  opened.map fun handle =>
    let ((outcome, _), world) := (preload handle world entries).hold (run.dialogue handle generator)
    let rig := world.rig opener
    let size := sizeOf world handle
    let (closed, world) := world.callEngine handle .close
    { outcome := outcome, rig := rig, size := size, closed := closed
      file := Handwork.readSnapshot world.disk options.path, world := world }

end Rehearsal

end StoreTrial
