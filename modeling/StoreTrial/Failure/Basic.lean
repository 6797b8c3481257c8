import StoreTrial.Bytes.Crc32
import StoreTrial.Pattern.Basic
import StoreTrial.Text.Numeral
import StoreTrial.Text.Outline

/-! # Failures

What can go wrong in an engine or in the harness that drives it, as causes, and
the wording of each cause.
-/

namespace StoreTrial

/-- A request that the file system refused. -/
inductive DiskFault where
  | noEntry
  | exists
  | notDirectory
  | isDirectory
  | invalid
  | nameTooLong
  | nulInPath
  | reported (message : String)
  deriving DecidableEq

/-- What the system says when it refuses a request: the wording, the number and the
class of the error. -/
structure SystemError where
  wording : String
  number : Nat
  label : String
  deriving DecidableEq

/-- The error of the system behind a refusal, when it came from there. -/
def DiskFault.systemError? : DiskFault → Option SystemError
  | .noEntry => some ⟨"No such file or directory", 2, "NotFound"⟩
  | .exists => some ⟨"File exists", 17, "AlreadyExists"⟩
  | .notDirectory => some ⟨"Not a directory", 20, "NotADirectory"⟩
  | .isDirectory => some ⟨"Is a directory", 21, "IsADirectory"⟩
  | .invalid => some ⟨"Invalid argument", 22, "InvalidInput"⟩
  | .nameTooLong => some ⟨"File name too long", 36, "InvalidFilename"⟩
  | .nulInPath | .reported _ => none

/-- The explanation of a refusal that did not come from the system. -/
def DiskFault.ownMessage : DiskFault → String
  | .reported message => message
  | _ => "file name contained an unexpected NUL byte"

/-- The explanation of a refusal. -/
def DiskFault.message (fault : DiskFault) : String :=
  match fault.systemError? with
  | some error => error.wording ++ " (os error " ++ toString error.number ++ ")"
  | none => fault.ownMessage

/-- The outline of a refusal: its class and its explanation. -/
def DiskFault.outline (fault : DiskFault) : String :=
  match fault.systemError? with
  | some error =>
      Text.outlineRecord "Os" [("code", toString error.number), ("kind", error.label),
        ("message", Text.quote error.wording)]
  | none =>
      Text.outlineRecord "Error" [("kind", "InvalidInput"),
        ("message", Text.quote fault.ownMessage)]

/-- Why a snapshot cannot be read. -/
inductive SnapshotFault where
  | tooShort (length : Nat)
  | checksumMismatch (expected actual : UInt32)
  | truncated
  | reported (message : String)
  deriving DecidableEq

/-- The explanation of an unreadable snapshot. -/
def SnapshotFault.message : SnapshotFault → String
  | .tooShort length => "Snapshot too short: " ++ toString length ++ " bytes"
  | .checksumMismatch expected actual =>
      "Snapshot checksum mismatch: expected " ++ Bytes.hexChecksum expected ++ ", got " ++
        Bytes.hexChecksum actual
  | .truncated => "io error: unexpected end of file"
  | .reported message => message

/-- Why a log filter is refused. -/
inductive FilterFault where
  | malformed
  | unknownLevel
  | badPattern (fault : Pattern.Fault)
  deriving DecidableEq

/-- The explanation of a refused log filter. -/
def FilterFault.message : FilterFault → String
  | .malformed => "invalid filter directive"
  | .unknownLevel =>
      "error parsing level filter: expected one of \"off\", \"error\", \"warn\", \"info\", " ++
        "\"debug\", \"trace\", or a number 0-5"
  | .badPattern fault => "invalid field filter: " ++ fault.message

/-- A use of the harness or of an engine that makes no sense. -/
inductive Misuse where
  | locationMissing (path : String)
  | locationMismatch (configured location : String)
  | prefixEmpty
  | prefixSeparator (stem : String)
  | badNumber (variableName text : String) (fault : Text.NumeralFault)
  | badBoolean (variableName text : String)
  | badFilter (level : String) (fault : FilterFault)
  | loggingInstalled
  | clockBeforeEpoch
  | emptyPopulation
  | nothingToMix (plan : String)
  | nothingToWrite (plan : String)
  | differentValue (key : String)
  | workerPanicked
  | reported (message : String)
  deriving DecidableEq

/-- A variable with the text it was set to. -/
def Misuse.setting (variableName text : String) : String :=
  variableName ++ "=" ++ Text.quote text

/-- The explanation of a misuse. -/
def Misuse.message : Misuse → String
  | .locationMissing path => "Storage location does not exist: " ++ Text.quote path
  | .locationMismatch configured location =>
      "Config path " ++ Text.quote configured ++ " does not match location " ++
        Text.quote location
  | .prefixEmpty => "prefix must not be empty"
  | .prefixSeparator stem =>
      "prefix must not contain a path separator: " ++ Text.quote stem
  | .badNumber variableName text fault => setting variableName text ++ ": " ++ fault.message
  | .badBoolean variableName text => setting variableName text ++ ": expected a boolean"
  | .badFilter level fault => "log level " ++ Text.quote level ++ ": " ++ fault.message
  | .loggingInstalled =>
      "logging already initialized: a global default trace dispatcher has already been set"
  | .clockBeforeEpoch =>
      "system clock before epoch: second time provided was later than self"
  | .emptyPopulation => "random access needs a non-empty population"
  | .nothingToMix plan => "plan " ++ plan ++ " has no items to mix over"
  | .nothingToWrite plan => "plan " ++ plan ++ " has no items to write"
  | .differentValue key => "read back a different value for " ++ key
  | .workerPanicked => "worker panicked"
  | .reported message => message

/-- The error of an engine call or of a harness operation. -/
inductive Failure where
  | lockPoisoned
  | io (fault : DiskFault)
  | serialization (fault : SnapshotFault)
  | entropy (reason : String)
  | notFound
  | closed
  | engine (message : String)
  | invalidOperation (misuse : Misuse)
  deriving DecidableEq

namespace Failure

/-- The explanation of a failure. -/
def message : Failure → String
  | .lockPoisoned => "Lock poisoned"
  | .io fault => "I/O error: " ++ fault.message
  | .serialization fault => "Serialization error: " ++ fault.message
  | .entropy reason => "Entropy source unavailable: " ++ reason
  | .notFound => "key not found"
  | .closed => "engine is closed"
  | .engine message => message
  | .invalidOperation misuse => "Invalid operation: " ++ misuse.message

/-- The name of the kind of cause. -/
def label : Failure → String
  | .lockPoisoned => "LockPoisoned"
  | .io _ => "Io"
  | .serialization _ => "Serialization"
  | .entropy _ => "Entropy"
  | .notFound => "NotFound"
  | .closed => "Closed"
  | .engine _ => "Engine"
  | .invalidOperation _ => "InvalidOperation"

/-- The explanation of the failure beneath this one, when there is one. -/
def source : Failure → Option String
  | .io fault => some fault.message
  | _ => none

/-- The text a cause carries, without the words its kind puts in front. -/
def detail : Failure → Option String
  | .io fault => some fault.message
  | .serialization fault => some fault.message
  | .entropy reason => some reason
  | .engine message => some message
  | .invalidOperation misuse => some misuse.message
  | .lockPoisoned | .notFound | .closed => none

/-- The outline of a failure: its label, and its text in quotation marks. -/
def outline (failure : Failure) : String :=
  match failure.detail with
  | none => failure.label
  | some text => Text.outlineTagged failure.label (Text.quote text)

end Failure

/-- Why a computation stopped before its result: it failed, or it panicked. -/
inductive Stop where
  | failed (failure : Failure)
  | panicked (message : String)
  deriving DecidableEq

/-- A result, a failure, or a panic. -/
abbrev Outcome := Except Stop

/-- The outcome of a computation that cannot panic. -/
def Outcome.ofResult {α : Type} : Except Failure α → Outcome α
  | .ok value => .ok value
  | .error failure => .error (.failed failure)

end StoreTrial
