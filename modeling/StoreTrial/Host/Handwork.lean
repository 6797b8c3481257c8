import StoreTrial.Disk.Actions
import StoreTrial.Store.SnapshotFile

/-! # Handwork on files

What somebody does to the files of an engine behind its back: damaged snapshots,
cut snapshots and snapshots made by hand. Every action says whether it worked.
-/

namespace StoreTrial.Handwork

/-- A file tree after an action, and whether the action worked. -/
abbrev Done := Bool × Disk

/-- The tree an action leads to, or the old one when it was refused. -/
def settle (disk : Disk) : Except DiskFault Disk → Done
  | .ok left => (true, left)
  | .error _ => (false, disk)

/-- Whether an action that keeps what it has done so far worked. -/
def judge : Except DiskFault Unit × Disk → Done
  | (.ok (), left) => (true, left)
  | (.error _, left) => (false, left)

/-- Makes a directory and the missing ones above it. -/
def makeDirectories (disk : Disk) (path : String) : Done :=
  judge (disk.makeDirectories (.ofText path))

/-- Gives a file a content. -/
def writeFile (disk : Disk) (path : String) (content : Bytes) : Done :=
  settle disk (disk.writeFile (.ofText path) content)

/-- Removes a file. -/
def removeFile (disk : Disk) (path : String) : Done :=
  settle disk (disk.removeFile (.ofText path))

/-- Removes a directory and all that is in it. -/
def removeTree (disk : Disk) (path : String) : Done :=
  judge (disk.removeTree (.ofText path))

/-- The content of the snapshot file of a location. -/
def readSnapshot (disk : Disk) (location : String) : Option Bytes :=
  match disk.readFile (SnapshotFile.path location) with
  | .ok content => some content
  | .error _ => none

/-- Gives the snapshot file of a location a content. -/
def writeSnapshot (disk : Disk) (location : String) (content : Bytes) : Done :=
  settle disk (disk.writeFile (SnapshotFile.path location) content)

/-- Makes a location with a snapshot of the given body, under its own checksum or
under the given bytes in its place. -/
def placeSnapshot (disk : Disk) (location : String) (checksum : Option Bytes) (payload : Bytes) :
    Done :=
  match judge (disk.makeDirectories (.ofText location)) with
  | (false, left) => (false, left)
  | (true, left) =>
      writeSnapshot left location
        (match checksum with
        | some header => header ++ payload
        | none => Snapshot.checksummed payload)

/-- The bytes with one of them changed by exclusive or. A negative position counts
from the end. -/
def flipByte (position : Int) (mask : UInt8) (bytes : Bytes) : Option Bytes :=
  let index := if position < 0 then position + bytes.length else position
  if index < 0 ∨ (bytes.length : Int) ≤ index then none
  else some (bytes.modify index.toNat (· ^^^ mask))

/-- Changes a byte of the snapshot file of a location. -/
def flip (disk : Disk) (location : String) (position : Int) (mask : UInt8) : Done :=
  match (readSnapshot disk location).bind (flipByte position mask) with
  | some content => writeSnapshot disk location content
  | none => (false, disk)

/-- Cuts the snapshot file of a location to a length. -/
def truncate (disk : Disk) (location : String) (length : Nat) : Done :=
  match readSnapshot disk location with
  | some content => writeSnapshot disk location (content.take length)
  | none => (false, disk)

end StoreTrial.Handwork
