import StoreTrial.Engine.Memory
import StoreTrial.Event
import StoreTrial.Store.SnapshotFile

/-! # Opening the memory engine

A handle is opened on a storage location of a file tree, from the snapshot that
the location holds. The options repeat the location, and an opener checks that
the two agree.
-/

namespace StoreTrial.MemoryEngine

/-- Makes sure that there is something at the location. -/
def provideLocation (options : EngineOptions) (disk : Disk) : Except Failure Unit × Disk :=
  let path := Path.ofText options.path
  if disk.exists? path then (.ok (), disk)
  else if options.createIfMissing then
    match disk.makeDirectories path with
    | (.ok (), made) => (.ok (), made)
    | (.error fault, left) => (.error (.io fault), left)
  else (.error (.invalidOperation (.locationMissing options.path)), disk)

/-- Opens a handle with the store its location holds. -/
def openStore (options : EngineOptions) (disk : Disk) : Except Failure MemoryEngine × Disk :=
  match provideLocation options disk with
  | (.error failure, left) => (.error failure, left)
  | (.ok (), provided) =>
      match SnapshotFile.load options.path provided with
      | .error failure => (.error failure, provided)
      | .ok store => (.ok (start options store), provided)

/-- Opens a handle at a location, which has to be the path of the options. -/
def openAt (location : String) (options : EngineOptions) (disk : Disk) :
    Except Failure MemoryEngine × Disk :=
  if Path.same options.path location then openStore options disk
  else (.error (.invalidOperation (.locationMismatch options.path location)), disk)

/-- Saves a store in the location of the handle. -/
def save (engine : MemoryEngine) : Save Disk := SnapshotFile.save engine.path

/-- A whole call on a handle over its file tree. -/
def answer (engine : MemoryEngine) (disk : Disk) (request : Request) :
    Reply Disk request.Answer :=
  engine.call engine.save disk request

/-- What a newly opened handle reports. -/
def openedEvent (engine : MemoryEngine) : Event := .engineOpened engine.path engine.store.size

/-- What a handle reports after it was closed. -/
def closedEvent (engine : MemoryEngine) : Event := .engineClosed engine.path engine.store.size

end StoreTrial.MemoryEngine
