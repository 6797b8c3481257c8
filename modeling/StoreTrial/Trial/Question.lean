import StoreTrial.Workload.Probe

/-! # Procedures of the harness

Scripts that open and call engines, remove their locations, read clocks, report
events and write into the failure logs of trials. A script that probes one engine
becomes a procedure when the engine is given.
-/

namespace StoreTrial

/-- An open engine. -/
abbrev Handle := Nat

/-- A way to open engines. -/
abbrev Opener := Nat

/-- The failure log of a trial. -/
abbrev Ledger := Nat

/-- What the harness asks of its surroundings. -/
inductive Question where
  | call (handle : Handle) (request : Request)
  /-- Opens an engine at a location. -/
  | openAt (opener : Opener) (location : String) (options : EngineOptions)
  /-- Removes a location and all that is in it. -/
  | clear (location : String)
  /-- The time of day in nanoseconds since the epoch, or before it if the reply is negative. -/
  | clock
  /-- The reading of a clock that only goes forward, in nanoseconds. -/
  | instant
  | log (event : Event)
  /-- Adds a failure to a log. -/
  | note (ledger : Ledger) (message : String)
  /-- Takes all failures out of a log, the oldest first. -/
  | drain (ledger : Ledger)
  deriving DecidableEq

/-- The reply to each question. -/
abbrev Question.Reply : Question → Type
  | .call _ request => Outcome request.Answer
  | .openAt _ _ _ => Except Failure Handle
  | .clear _ => Except DiskFault Unit
  | .clock => Int
  | .instant => Nat
  | .log _ => Unit
  | .note _ _ => Unit
  | .drain _ => List String

/-- A script of the harness. -/
abbrev Dialogue (α : Type) := Script Question.Reply α

/-- A script of the harness that may stop before its end. -/
abbrev Procedure (α : Type) := ExceptT Stop (Script Question.Reply) α

/-- Reports an event. -/
def Dialogue.log (event : Event) : Dialogue Unit := Script.query (Question.log event)

/-- Asks what a probe of an engine asks. -/
def Probe.on (handle : Handle) : (probe : Probe) → Dialogue probe.Reply
  | .call request => Script.query (Question.call handle request)
  | .instant => Script.query Question.instant
  | .log event => Dialogue.log event

namespace Procedure

variable {α : Type}

/-- The dialogue of a procedure, which gives its outcome. -/
def dialogue (procedure : Procedure α) : Dialogue (Outcome α) := ExceptT.run procedure

/-- The procedure that ends as a dialogue says. -/
def ofDialogue (dialogue : Dialogue (Outcome α)) : Procedure α := ExceptT.mk dialogue

/-- Calls an engine. -/
def call (handle : Handle) (request : Request) : Procedure request.Answer :=
  ofDialogue (Script.query (Question.call handle request))

end Procedure

/-- An attempt on an engine as a dialogue with it. -/
def Attempt.dialogue {α : Type} (attempt : Attempt α) (handle : Handle) : Dialogue (Outcome α) :=
  attempt.script.interpret (Probe.on handle)

/-- A probing of an engine, from a generator, as a dialogue with it. -/
def Probing.dialogue {ε α : Type} (probing : Probing ε α) (handle : Handle)
    (generator : Generator ε) : Dialogue (Outcome α × Generator ε) :=
  (probing.script generator).interpret (Probe.on handle)

end StoreTrial
