import StoreTrial.Lease.Location
import StoreTrial.Trial.Basic

/-! # Provisioning

Fresh engines, each at a storage location of its own. The settings and the clock are
checked before anything is drawn or opened; random bytes that cannot be had are an
error, because a name that can be guessed might be taken.
-/

namespace StoreTrial

/-- Makes fresh engines: how they are opened, the settings, and the entropy source
for the names of their locations. -/
structure Provisioner (ε : Type) where
  opener : Opener
  settings : Settings
  source : ε
  deriving DecidableEq

/-- A procedure that uses up the entropy of a provisioner. -/
abbrev Provisioning (ε α : Type) :=
  ExceptT Stop (StateT (Provisioner ε) (Script Question.Reply)) α

namespace Provisioner

variable {ε α : Type}

/-- The dialogue of a provisioning: its outcome and the provisioner afterwards. -/
def dialogue (provisioning : Provisioning ε α) (provisioner : Provisioner ε) :
    Dialogue (Outcome α × Provisioner ε) :=
  StateT.run (ExceptT.run provisioning) provisioner

instance : MonadLift Procedure (Provisioning ε) where
  monadLift procedure := ExceptT.mk (StateT.lift procedure.dialogue)

/-- The result, or a stop with its failure. -/
def ofResult (result : Except Failure α) : Procedure α :=
  Procedure.ofDialogue (pure (Outcome.ofResult result))

/-- Asks for the time of day. -/
def clock : Dialogue Int := Script.query Question.clock

/-- The nanoseconds since the epoch at a time of day. -/
def sinceEpoch : (time : Int) → Except Failure Nat
  | .ofNat nanos => .ok nanos
  | .negSucc _ => .error (.invalidOperation .clockBeforeEpoch)

@[simp]
theorem sinceEpoch_natCast (nanos : Nat) : sinceEpoch nanos = .ok nanos := rfl

/-- Opens an engine. -/
def openAt (opener : Opener) (location : String) (options : EngineOptions) :
    Dialogue (Except Failure Handle) :=
  Script.query (Question.openAt opener location options)

variable [EntropySource ε]

/-- Draws the random bytes of a name. -/
def drawSuffix : Provisioning ε (Filled Location.suffixSize) := do
  let provisioner ← get
  let (result, source) := EntropySource.fill provisioner.source Location.suffixSize
  set { provisioner with source := source }
  ofResult result

/-- Names a fresh location. -/
def nameLocation : Provisioning ε String := do
  let time ← (clock : Dialogue Int)
  let nanos ← ofResult (sinceEpoch time)
  let suffix ← drawSuffix
  return Location.path (← get).settings nanos suffix

/-- The options of an engine at a location. -/
def optionsAt (settings : Settings) (location : String) : EngineOptions :=
  { path := location, syncWrites := settings.syncWrites }

/-- Opens a fresh engine. -/
def openFresh : Provisioning ε (String × Handle) := do
  let provisioner ← get
  ofResult provisioner.settings.validate
  let location ← nameLocation
  let result ← (openAt provisioner.opener location (optionsAt provisioner.settings location) :
    Dialogue (Except Failure Handle))
  let handle ← ofResult result
  Dialogue.log (.instanceProvisioned location)
  return (location, handle)

end Provisioner

end StoreTrial
