import StoreTrial.Failure.Basic

/-! # Shares of work

Units of work spread over workers as evenly as possible, the first workers taking
what is left over.
-/

namespace StoreTrial

/-- The units of a worker. -/
def share (worker workers total : Nat) : Nat :=
  if worker < total % workers then total / workers + 1 else total / workers

/-- The units of a worker, when there are workers to share them. -/
def shareOf (worker workers total : Nat) : Outcome Nat :=
  if workers = 0 then .error (.panicked "attempt to divide by zero")
  else .ok (share worker workers total)

end StoreTrial
