import StoreTrial.Disk.Actions
import StoreTrial.Store.Snapshot

/-! # Snapshot files

A snapshot kept in a file of a storage location. Writing goes through a second
file that then takes the place of the first in one step, so that the file holds
either its old content or all of the new one.
-/

namespace StoreTrial.SnapshotFile

/-- The name of the file inside its location. -/
def name : String := "DATA_SNAPSHOT"

/-- The path of the file in a location. -/
def path (location : String) : Path := .ofText (Path.join location name)

/-- The path of the file that is written first. -/
def draftPath (location : String) : Path := .ofText (Path.join location (name ++ ".tmp"))

/-- Writes a snapshot to the first file. -/
def draft (location : String) (content : Bytes) (disk : Disk) : Except DiskFault Disk :=
  disk.writeFile (draftPath location) content

/-- Lets the first file take the place of the snapshot. -/
def publish (location : String) (disk : Disk) : Except DiskFault Disk :=
  disk.renameFile (draftPath location) (path location)

/-- Writes the snapshot whose entries come in the given order. -/
def saveEntries (location : String) (entries : List (Bytes × Bytes)) (disk : Disk) :
    Except Failure Unit × Disk :=
  match draft location (Snapshot.image entries) disk with
  | .error fault => (.error (.io fault), disk)
  | .ok drafted =>
      match publish location drafted with
      | .error fault => (.error (.io fault), drafted)
      | .ok published => (.ok (), published)

/-- Writes the snapshot of a store. -/
def save (location : String) (store : Store) (disk : Disk) : Except Failure Unit × Disk :=
  saveEntries location store.entries disk

/-- Reads the snapshot of a location. Where there is none the store is empty. -/
def load (location : String) (disk : Disk) : Except Failure Store :=
  if disk.exists? (path location) then
    match disk.readFile (path location) with
    | .error fault => .error (.io fault)
    | .ok bytes =>
        match Snapshot.decode bytes with
        | .error fault => .error (.serialization fault)
        | .ok store => .ok store
  else .ok Store.empty

end StoreTrial.SnapshotFile
