import StoreTrial.Failure.Basic
import StoreTrial.Payload.Generator
import StoreTrial.Text.Blank

/-! # Settings of the harness

Where instances live and how they are named, the seed of the payload fallback, the
number of parallel workers, and how engines save and events are shown. Settings
come from variables, each of which may be unset.
-/

namespace StoreTrial

/-- The version of the harness. -/
def harnessVersion : String := "0.1.0"

/-- What the machine offers to a harness that is told nothing else. -/
structure Surroundings where
  tempRoot : String
  workers : Nat

/-- The settings of a harness. -/
structure Settings where
  /-- The directory that holds the storage locations. -/
  tempRoot : String
  /-- The beginning of the name of every location. -/
  stem : String
  seed : UInt64
  workers : Nat
  syncWrites : Bool
  logLevel : String
  deriving DecidableEq

namespace Settings

/-- The settings when no variable is set. -/
def standard (surroundings : Surroundings) : Settings where
  tempRoot := surroundings.tempRoot
  stem := "kvprobe"
  seed := defaultSeed
  workers := surroundings.workers
  syncWrites := false
  logLevel := "info"

/-- The variable for the directory of the locations. -/
def tempRootVariable : String := "KVPROBE_TMPDIR"

/-- The variable for the beginning of the names. -/
def stemVariable : String := "KVPROBE_PREFIX"

/-- The variable for the seed. -/
def seedVariable : String := "KVPROBE_SEED"

/-- The variable for the number of workers. -/
def workersVariable : String := "KVPROBE_WORKERS"

/-- The variable for saving after every change. -/
def syncWritesVariable : String := "KVPROBE_SYNC_WRITES"

/-- The variable for the log filter. -/
def logVariable : String := "KVPROBE_LOG"

/-- All variables. -/
def variableNames : List String :=
  [tempRootVariable, stemVariable, seedVariable, workersVariable, syncWritesVariable, logVariable]

/-- The settings with a number of workers, which is at least one. -/
def withWorkers (settings : Settings) (workers : Nat) : Settings :=
  { settings with workers := max workers 1 }

/-- Accepts settings whose locations can be named: the beginning of the names is
not empty and has no separator in it. -/
def validate (settings : Settings) : Except Failure Unit :=
  if settings.stem == "" then .error (.invalidOperation .prefixEmpty)
  else if settings.stem.toList.contains '/' then
    .error (.invalidOperation (.prefixSeparator settings.stem))
  else .ok ()

/-- Reads a number of 64 bits that a variable was set to. -/
def readWord (variableName text : String) : Except Failure Nat :=
  match Text.readNumber Text.maxWord (Text.trim text.toList) with
  | .ok number => .ok number
  | .error fault => .error (.invalidOperation (.badNumber variableName text fault))

/-- The words for yes. -/
def yesWords : List String := ["1", "true", "yes", "on"]

/-- The words for no. -/
def noWords : List String := ["0", "false", "no", "off"]

/-- Reads a choice that a variable was set to. -/
def readChoice (variableName text : String) : Except Failure Bool :=
  let word := (Text.trim text.toList).map Char.toLower
  if yesWords.any fun yes => yes.toList == word then .ok true
  else if noWords.any fun no => no.toList == word then .ok false
  else .error (.invalidOperation (.badBoolean variableName text))

/-- What a reading makes of a variable, or the standard value when it is unset. -/
def readOr {α : Type} (lookup : String → Option String) (variableName : String) (standard : α)
    (read : String → String → Except Failure α) : Except Failure α :=
  match lookup variableName with
  | none => .ok standard
  | some text => read variableName text

/-- The settings that the set variables ask for. The seed, the workers, the choice
and the beginning of the names are checked in this order. -/
def ofVariables (surroundings : Surroundings) (lookup : String → Option String) :
    Except Failure Settings := do
  let standard := standard surroundings
  let seed ← readOr lookup seedVariable standard.seed.toNat readWord
  let workers ← readOr lookup workersVariable standard.workers fun variableName text =>
    (readWord variableName text).map (max · 1)
  let syncWrites ← readOr lookup syncWritesVariable standard.syncWrites readChoice
  let settings : Settings :=
    { tempRoot := (lookup tempRootVariable).getD standard.tempRoot
      stem := (lookup stemVariable).getD standard.stem
      seed := seed.toUInt64
      workers := workers
      syncWrites := syncWrites
      logLevel := (lookup logVariable).getD standard.logLevel }
  settings.validate
  return settings

end Settings

end StoreTrial
