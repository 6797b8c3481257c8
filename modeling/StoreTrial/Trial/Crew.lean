import StoreTrial.Script.Interleaving
import StoreTrial.Trial.Question

/-! # Crews

Tasks that run side by side until all of them have ended. A task may end in a
panic; the others go on, and the panic of the first task that had one, in the
order of the tasks, ends the crew.
-/

namespace StoreTrial

/-- A task: a dialogue that returns, or that ends in a panic with a payload. -/
abbrev CrewTask (π : Type) := Dialogue (Except π Unit)

namespace Crew

variable {π : Type}

/-- The payload of the panic a task ended in. -/
def panicOf : Except π Unit → Option π
  | .ok () => none
  | .error payload => some payload

/-- Runs tasks whose questions follow each other as the schedule says. -/
def run (schedule : List Nat) (tasks : List (CrewTask π)) : Dialogue (Except π Unit) :=
  if tasks.isEmpty then pure (.ok ())
  else do
    let endings ← Script.interleave schedule tasks
    match endings.findSome? panicOf with
    | none => return .ok ()
    | some payload => do
        Dialogue.log (.taskPanicked tasks.length)
        return .error payload

/-- A task that leaves a mark in a failure log and then returns or panics. -/
def marking (ledger : Ledger) (panic : Option String) :
    Dialogue (Except String Unit) := do
  Script.query (Question.note ledger "")
  match panic with
  | none => return .ok ()
  | some message => return .error message

end Crew

end StoreTrial
