import StoreTrial.Disk.Path
import StoreTrial.Text.Outline

/-! # Requests to an engine

The five calls every storage engine answers, what each is answered with, and the
options an engine is opened with.
-/

namespace StoreTrial

/-- A call on an open engine. -/
inductive Request where
  | put (key value : Bytes)
  | get (key : Bytes)
  | delete (key : Bytes)
  | contains (key : Bytes)
  | close
  deriving DecidableEq

namespace Request

/-- What a call is answered with when it succeeds. -/
abbrev Answer : Request → Type
  | put _ _ => Unit
  | get _ => Bytes
  | delete _ => Unit
  | contains _ => Bool
  | close => Unit

/-- The key a call is about. -/
def key? : Request → Option Bytes
  | put key _ => some key
  | get key => some key
  | delete key => some key
  | contains key => some key
  | close => none

end Request

/-- How an engine is opened. -/
structure EngineOptions where
  path : String
  /-- Save after every change instead of only on close. -/
  syncWrites : Bool := false
  /-- Make the storage location when it does not exist. -/
  createIfMissing : Bool := true
  deriving DecidableEq

namespace EngineOptions

/-- Options are the same when their paths are and both choices agree. -/
def same (left right : EngineOptions) : Bool :=
  Path.same left.path right.path && left.syncWrites == right.syncWrites &&
    left.createIfMissing == right.createIfMissing

/-- The options in one line. -/
def outline (options : EngineOptions) : String :=
  Text.outlineRecord "EngineConfig"
    [("path", Text.quote options.path), ("sync_writes", Text.outlineBool options.syncWrites),
      ("create_if_missing", Text.outlineBool options.createIfMissing)]

end EngineOptions

end StoreTrial
