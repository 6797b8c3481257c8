import StoreTrial.Bytes.Repaired
import StoreTrial.Engine.Request

/-! # Rigs

A rig stands between callers and the engines behind it. It records every call, and
misbehaves where a fault has been planted: before the real call or after it, with
a panic, a failure or a made-up answer. All engines behind a rig share its records.
-/

namespace StoreTrial

/-- The kinds of calls. -/
inductive CallKind where
  | put
  | get
  | delete
  | contains
  | close
  deriving DecidableEq

/-- The kind of a call. -/
def Request.kind : Request → CallKind
  | put _ _ => .put
  | get _ => .get
  | delete _ => .delete
  | contains _ => .contains
  | close => .close

/-- The worker that a call of a parallel case belongs to: the beginning of its key, up
to the first dash. -/
def Request.worker? (request : Request) : Option String :=
  request.key?.map fun key => Bytes.repaired (key.takeWhile (· != 45))

/-- Whether a call may stand before another when calls are ordered by their workers.
Calls without a key come last. -/
def Request.workerLe (left right : Request) : Bool :=
  match left.worker?, right.worker? with
  | some first, some second => decide (first ≤ second)
  | some _, none => true
  | none, some _ => false
  | none, none => true

/-- A planted fault: the calls it is meant for, and what happens instead of them. -/
structure Fault where
  kind : CallKind
  /-- Only calls on this key. -/
  key : Option Bytes := none
  /-- Only this call of its kind, counted from one. -/
  turn : Option Nat := none
  /-- The real call is made first, and its failure comes before that of the fault. -/
  afterCall : Bool := false
  panic : Option String := none
  failure : Option Failure := none
  /-- The answer to a read when nothing else is planted. -/
  value : Bytes := []
  /-- The answer to a search for a key when nothing else is planted. -/
  present : Bool := false
  deriving DecidableEq

namespace Fault

/-- Whether a fault is meant for a call that is the given one of its kind. -/
def meets (fault : Fault) (request : Request) (turn : Nat) : Bool :=
  fault.kind == request.kind && fault.key.all (fun key => request.key? == some key) &&
    fault.turn.all (· == turn)

/-- The made-up answer to a call. -/
def answer (fault : Fault) : (request : Request) → request.Answer
  | .put _ _ => ()
  | .get _ => fault.value
  | .delete _ => ()
  | .contains _ => fault.present
  | .close => ()

/-- What a call is told at a fault. -/
def reply (fault : Fault) (request : Request) : Except Failure request.Answer :=
  match fault.failure with
  | some failure => .error failure
  | none => .ok (fault.answer request)

/-- What comes of a call that a fault is put in place of. -/
def outcome (fault : Fault) (request : Request) : Outcome request.Answer :=
  match fault.panic with
  | some message => .error (.panicked message)
  | none => .ofResult (fault.reply request)

end Fault

/-- How many calls of each kind were made. -/
structure CallTally where
  puts : Nat := 0
  gets : Nat := 0
  deletes : Nat := 0
  searches : Nat := 0
  closes : Nat := 0
  deriving DecidableEq

namespace CallTally

/-- The calls of a kind. -/
def count (tally : CallTally) : CallKind → Nat
  | .put => tally.puts
  | .get => tally.gets
  | .delete => tally.deletes
  | .contains => tally.searches
  | .close => tally.closes

/-- The tally after one more call of a kind. -/
def add (tally : CallTally) : CallKind → CallTally
  | .put => { tally with puts := tally.puts + 1 }
  | .get => { tally with gets := tally.gets + 1 }
  | .delete => { tally with deletes := tally.deletes + 1 }
  | .contains => { tally with searches := tally.searches + 1 }
  | .close => { tally with closes := tally.closes + 1 }

end CallTally

/-- The faults and the records of a rig; recorded calls are held newest first. -/
structure Rig where
  faults : List Fault := []
  /-- Why no engine can be opened behind the rig, if so. -/
  refusal : Option Failure := none
  /-- The calls since the records were last taken. -/
  calls : List Request := []
  /-- The calls that were ever made. -/
  tally : CallTally := {}
  deriving DecidableEq

namespace Rig

/-- The rig after a call was recorded. -/
def record (rig : Rig) (request : Request) : Rig :=
  { rig with calls := request :: rig.calls, tally := rig.tally.add request.kind }

/-- The fault for the call recorded last. -/
def faultFor (rig : Rig) (request : Request) : Option Fault :=
  rig.faults.find? fun fault => fault.meets request (rig.tally.count request.kind)

/-- The calls since the records were last taken, the oldest first. -/
def recorded (rig : Rig) : List Request := rig.calls.reverse

/-- The recorded calls of each worker together, in their order. -/
def recordedByWorker (rig : Rig) : List Request := rig.recorded.mergeSort Request.workerLe

/-- The rig without records of calls; faults go on counting. -/
def forget (rig : Rig) : Rig := { rig with calls := [] }

end Rig

end StoreTrial
