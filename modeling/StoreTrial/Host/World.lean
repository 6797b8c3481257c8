import StoreTrial.Engine.Opening
import StoreTrial.Host.Rig
import StoreTrial.Trial.Question

/-! # Worlds

A world answers the questions of the harness: it has a file tree, open memory
engines with rigs before them, failure logs, a journal of events and a clock.
-/

namespace StoreTrial

/-- An open engine and the rig before it. -/
structure Mounted where
  engine : MemoryEngine
  rig : Option Opener
  deriving DecidableEq

/-- A world. A handle is the position of its engine; the newest event comes
first. -/
structure World where
  disk : Disk
  engines : Array Mounted := #[]
  rigs : List (Opener × Rig) := []
  ledgers : List (Ledger × List String) := []
  journal : List Event := []
  clock : Nat
  deriving DecidableEq

namespace World

/-- An entry of a table, put in place of any other under its number. -/
def place {α : Type} (table : List (Nat × α)) (number : Nat) (entry : α) : List (Nat × α) :=
  (number, entry) :: table.filter fun item => item.1 != number

/-- The rig under a number. -/
def rig (world : World) (opener : Opener) : Rig := (world.rigs.lookup opener).getD {}

/-- The world with a rig under a number. -/
def setRig (world : World) (opener : Opener) (rig : Rig) : World :=
  { world with rigs := place world.rigs opener rig }

/-- The failures in a log, the oldest first. -/
def failures (world : World) (ledger : Ledger) : List String :=
  (world.ledgers.lookup ledger).getD []

/-- The world with an event in its journal. -/
def report (world : World) (event : Event) : World :=
  { world with journal := event :: world.journal }

/-- The engine of a handle. -/
def engine? (world : World) (handle : Handle) : Option MemoryEngine :=
  world.engines[handle]?.map Mounted.engine

/-- The failure of a call on a handle that nothing is behind. -/
def strayFailure : Failure := .engine "no such handle"

/-- The events that a call on an engine leads to when it succeeds. -/
def callEvents (engine : MemoryEngine) : Request → List Event
  | .close => [engine.closedEvent]
  | _ => []

/-- Calls an engine behind its rig. -/
def callEngine (world : World) (handle : Handle) (request : Request) :
    Except Failure request.Answer × World :=
  match world.engines[handle]? with
  | none => (.error strayFailure, world)
  | some mounted =>
      let (result, engine, disk) := mounted.engine.answer world.disk request
      let remounted := { mounted with engine := engine }
      let left := { world with
        disk := disk
        engines := world.engines.setIfInBounds handle remounted }
      match result with
      | .ok answer => (.ok answer, (callEvents engine request).foldl report left)
      | .error failure => (.error failure, left)

/-- Calls an engine at a fault. -/
def callAtFault (world : World) (handle : Handle) (fault : Fault) (request : Request) :
    Outcome request.Answer × World :=
  if fault.afterCall then
    match world.callEngine handle request with
    | (.error failure, left) => (.error (.failed failure), left)
    | (.ok _, left) => (.ofResult (fault.reply request), left)
  else (fault.outcome request, world)

/-- Calls an engine through its rig. -/
def call (world : World) (handle : Handle) (request : Request) :
    Outcome request.Answer × World :=
  match world.engines[handle]?.bind Mounted.rig with
  | none =>
      let (result, left) := world.callEngine handle request
      (.ofResult result, left)
  | some opener =>
      let rig := (world.rig opener).record request
      let recorded := world.setRig opener rig
      match rig.faultFor request with
      | some fault => recorded.callAtFault handle fault request
      | none =>
          let (result, left) := recorded.callEngine handle request
          (.ofResult result, left)

/-- Puts a newly opened engine behind a rig, or behind none. -/
def mount (world : World) (rig : Option Opener) (result : Except Failure MemoryEngine × Disk) :
    Except Failure Handle × World :=
  let left := { world with disk := result.2 }
  match result.1 with
  | .error failure => (.error failure, left)
  | .ok engine =>
      (.ok left.engines.size,
        ({ left with engines := left.engines.push ⟨engine, rig⟩ }).report engine.openedEvent)

/-- Opens an engine behind a rig. -/
def openAt (world : World) (opener : Opener) (location : String) (options : EngineOptions) :
    Except Failure Handle × World :=
  match (world.rig opener).refusal with
  | some failure => (.error failure, world)
  | none => world.mount (some opener) (MemoryEngine.openAt location options world.disk)

/-- Removes a location and all that is in it. -/
def clear (world : World) (location : String) : Except DiskFault Unit × World :=
  let (result, disk) := world.disk.removeTree (.ofText location)
  (result, { world with disk := disk })

/-- Reads the clock, which then goes on. -/
def tick (world : World) : Nat × World := (world.clock, { world with clock := world.clock + 1 })

/-- Answers a question. -/
def answer : (question : Question) → World → question.Reply × World
  | .call handle request, world => world.call handle request
  | .openAt opener location options, world => world.openAt opener location options
  | .clear location, world => world.clear location
  | .clock, world => (world.tick.1, world.tick.2)
  | .instant, world => world.tick
  | .log event, world => ((), world.report event)
  | .note ledger message, world =>
      ((), { world with
        ledgers := place world.ledgers ledger (world.failures ledger ++ [message]) })
  | .drain ledger, world =>
      (world.failures ledger, { world with ledgers := place world.ledgers ledger [] })

/-- Holds a dialogue with the world. -/
def hold {α : Type} (world : World) (dialogue : Dialogue α) : α × World :=
  dialogue.run answer world

/-- A world with one empty directory and a clock at the given time. -/
def fresh (directory : String) (clock : Nat) : World where
  disk := ⟨[([directory], .directory)]⟩
  clock := clock

end World

end StoreTrial
