import StoreTrial.Binary64
import StoreTrial.Failure.Basic

/-! # Events

What the engines, the payload generator and the harness report while they work.
Events say what happened; how they are shown is decided by their level, message
and fields.
-/

namespace StoreTrial

/-- The weight of an event. -/
inductive EventLevel where
  | debug
  | warning
  | error
  deriving DecidableEq

/-- The name of a level. -/
def EventLevel.label : EventLevel → String
  | .debug => "DEBUG"
  | .warning => "WARN"
  | .error => "ERROR"

/-- What a trial checks: that an engine is correct, or how fast it is. -/
inductive TrialKind where
  | test
  | bench
  deriving DecidableEq

/-- The name of a kind of trial. -/
def TrialKind.label : TrialKind → String
  | .test => "test"
  | .bench => "bench"

/-- Something that happened. -/
inductive Event where
  | engineOpened (path : String) (keys : Nat)
  | engineClosed (path : String) (keys : Nat)
  | fallbackBegun (seed : UInt64) (failure : Failure)
  | fallbackRepeated (seed : UInt64)
  | loopAborted (workload : String) (iteration : Nat) (failure : Failure)
  | workersAborted (workers : Nat) (failure : Failure)
  | taskPanicked (tasks : Nat)
  | instanceProvisioned (location : String)
  | handleAlreadyClosed (location : String)
  | cleanupSkipped (location : String) (fault : DiskFault)
  | instanceRemoved (location : String)
  | failureRecorded (kind : TrialKind) (trial message : String)
  | trialAborted (kind : TrialKind) (trial message : String)
  | sampleComplete (trial workload : String) (iterations : Nat) (nanosPerStep : Binary64)
  | parallelSampleComplete (trial : String) (workers iterations : Nat) (stepsPerSecond : Binary64)
  deriving DecidableEq

/-- The value of a field: text, or a rate that depends on the speed of a machine. -/
inductive EventField where
  | text (value : String)
  | rate (value : Binary64)
  deriving DecidableEq

namespace Event

/-- The weight of an event. -/
def level : Event → EventLevel
  | .fallbackBegun .. | .failureRecorded .. => .warning
  | .loopAborted .. | .workersAborted .. | .taskPanicked .. | .trialAborted .. => .error
  | _ => .debug

/-- The sentence that names an event. -/
def message : Event → String
  | .engineOpened .. => "memory engine opened"
  | .engineClosed .. => "memory engine closed"
  | .fallbackBegun .. => "entropy unavailable, using deterministic payloads"
  | .fallbackRepeated .. => "deterministic payload fallback"
  | .loopAborted .. => "measured loop aborted"
  | .workersAborted .. => "concurrent case aborted"
  | .taskPanicked .. => "concurrent task panicked"
  | .instanceProvisioned .. => "instance provisioned"
  | .handleAlreadyClosed .. => "handle already closed"
  | .cleanupSkipped .. => "cleanup skipped"
  | .instanceRemoved .. => "instance removed"
  | .failureRecorded _ _ message => message
  | .trialAborted _ _ message => message
  | .sampleComplete .. => "sample complete"
  | .parallelSampleComplete .. => "parallel sample complete"

/-- A field with a number. -/
def numberField (name : String) (number : Nat) : String × EventField :=
  (name, .text (toString number))

/-- The particulars of an event, by name. -/
def fields : Event → List (String × EventField)
  | .engineOpened path keys | .engineClosed path keys =>
      [("path", .text path), numberField "keys" keys]
  | .fallbackBegun seed failure =>
      [numberField "seed" seed.toNat, ("error", .text failure.message)]
  | .fallbackRepeated seed => [numberField "seed" seed.toNat]
  | .loopAborted workload iteration failure =>
      [("workload", .text workload), numberField "iteration" iteration,
        ("error", .text failure.message)]
  | .workersAborted workers failure =>
      [numberField "workers" workers, ("error", .text failure.message)]
  | .taskPanicked tasks => [numberField "tasks" tasks]
  | .instanceProvisioned location | .handleAlreadyClosed location | .instanceRemoved location =>
      [("location", .text location)]
  | .cleanupSkipped location fault =>
      [("location", .text location), ("error", .text fault.message)]
  | .failureRecorded kind trial _ | .trialAborted kind trial _ => [(kind.label, .text trial)]
  | .sampleComplete trial workload iterations nanosPerStep =>
      [("bench", .text trial), ("workload", .text workload), numberField "iterations" iterations,
        ("ns_per_op", .rate nanosPerStep)]
  | .parallelSampleComplete trial workers iterations stepsPerSecond =>
      [("bench", .text trial), numberField "workers" workers, numberField "iterations" iterations,
        ("ops_per_sec", .rate stepsPerSecond)]

end Event

end StoreTrial
