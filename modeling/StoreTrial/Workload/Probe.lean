import StoreTrial.Engine.Request
import StoreTrial.Bytes.Repaired
import StoreTrial.Payload.Generator
import StoreTrial.Script.Basic

/-! # Probing an engine

Scripts that call one engine, read a clock and report events. A call may fail or
panic, and so may the script; a script that also draws payloads keeps what the
generator has become, however it ends.
-/

namespace StoreTrial

/-- What a script asks while it probes an engine. -/
inductive Probe where
  | call (request : Request)
  /-- The reading of a clock that only goes forward, in nanoseconds. -/
  | instant
  | log (event : Event)
  deriving DecidableEq

/-- The reply to each question. -/
abbrev Probe.Reply : Probe → Type
  | .call request => Outcome request.Answer
  | .instant => Nat
  | .log _ => Unit

/-- A script that may stop before its end. -/
abbrev Attempt (α : Type) := ExceptT Stop (Script Probe.Reply) α

namespace Attempt

variable {α : Type}

/-- The script of an attempt, which gives its outcome. -/
def script (attempt : Attempt α) : Script Probe.Reply (Outcome α) := ExceptT.run attempt

/-- Calls the engine. -/
def call (request : Request) : Attempt request.Answer :=
  ExceptT.mk (Script.query (Probe.call request))

/-- Reads the clock. -/
def instant : Attempt Nat := ExceptT.lift (Script.query Probe.instant)

/-- Reports an event. -/
def log (event : Event) : Attempt Unit := ExceptT.lift (Script.query (Probe.log event))

/-- Stops with a failure. -/
def fail (failure : Failure) : Attempt α := throw (.failed failure)

/-- Stops with a panic. -/
def panic (message : String) : Attempt α := throw (.panicked message)

/-- Makes steps that are numbered from `first` on, one after another. -/
def forEachFrom (first : Nat) : (count : Nat) → (step : Nat → Attempt Unit) → Attempt Unit
  | 0, _ => pure ()
  | count + 1, step => do
      step first
      forEachFrom (first + 1) count step

/-- The element at a position, which has to be one of the list. -/
def element (elements : Array Bytes) (index : Nat) : Attempt Bytes :=
  match elements[index]? with
  | some element => pure element
  | none =>
      panic ("index out of bounds: the len is " ++ toString elements.size ++
        " but the index is " ++ toString index)

/-- The element at a position of the elements repeated over and over. -/
def cyclicElement (elements : Array Bytes) (index : Nat) : Attempt Bytes :=
  if elements.size = 0 then panic "attempt to calculate the remainder with a divisor of zero"
  else element elements (index % elements.size)

/-- The numbered steps are those of the list of their numbers. -/
theorem forEachFrom_eq_forM (first count : Nat) (step : Nat → Attempt Unit) :
    forEachFrom first count step = (List.range' first count).forM step := by
  induction count generalizing first with
  | zero => rfl
  | succ count ih =>
      simp only [forEachFrom, ih, List.range'_succ]
      rfl

end Attempt

/-- An attempt that also draws payloads. -/
abbrev Probing (ε α : Type) := ExceptT Stop (StateT (Generator ε) (Script Probe.Reply)) α

namespace Probing

variable {ε α : Type}

/-- The script of an attempt from a generator: its outcome and the generator
afterwards. -/
def script (probing : Probing ε α) (generator : Generator ε) :
    Script Probe.Reply (Outcome α × Generator ε) :=
  StateT.run (ExceptT.run probing) generator

/-- An attempt that draws nothing. -/
def ofAttempt (attempt : Attempt α) : Probing ε α :=
  ExceptT.mk (StateT.lift attempt.script)

instance : MonadLift Attempt (Probing ε) where
  monadLift := ofAttempt

/-- Draws payloads, and reports what is to report about them. -/
def draw (draw : Draw ε α) : Probing ε α := do
  let drawn := draw (← get)
  set drawn.generator
  drawn.events.forM fun event => Attempt.log event
  return drawn.value

end Probing

end StoreTrial
