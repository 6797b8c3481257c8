import StoreTrial.Disk.Actions

/-! # Log files

The files that events are written to, a new one for each day: the name of a day's
file is that of the log and the date of the day. The directory is made when the
file cannot be.
-/

namespace StoreTrial.LogFile

/-- What could not be made. -/
inductive Target where
  | directory
  | file
  deriving DecidableEq

/-- Why there is no log file. -/
structure Fault where
  target : Target
  cause : DiskFault
  deriving DecidableEq

/-- What was tried. -/
def Target.attempt : Target → String
  | .directory => "failed to create log directory"
  | .file => "failed to create log file"

/-- The explanation of a fault. -/
def Fault.message (fault : Fault) : String :=
  "initializing rolling file appender failed: " ++
    Text.outlineRecord "InitError" [("context", Text.quote fault.target.attempt),
      ("source", fault.cause.outline)]

/-- The directory of a log. -/
def directory (log : Path) : Path := log.parent?.getD (.ofText ".")

/-- The name of a log that is given none. -/
def standardName : String := "kvprobe.log"

/-- The file of a log for a day. -/
def path (log : Path) (date : String) : Path :=
  (directory log).child (log.fileName?.getD standardName ++ "." ++ date)

/-- Makes the file of a log for a day, unless it is there. -/
def create (disk : Disk) (log : Path) (date : String) : Except Fault Disk :=
  match disk.touchFile (path log date) with
  | .ok left => .ok left
  | .error _ =>
      match disk.makeDirectories (directory log) with
      | (.error fault, _) => .error ⟨.directory, fault⟩
      | (.ok (), left) => (left.touchFile (path log date)).mapError fun fault => ⟨.file, fault⟩

end StoreTrial.LogFile
