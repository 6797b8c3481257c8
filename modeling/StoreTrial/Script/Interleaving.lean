import StoreTrial.Script.Basic

/-! # Interleaved scripts

Several scripts side by side. A schedule names the script that asks next; when it
is used up, the scripts run to their ends one after another, so that all of them
finish whatever the schedule was.
-/

namespace StoreTrial.Script

variable {Question : Type} {Reply : Question → Type} {α : Type}

/-- Runs scripts one after another and collects their values. -/
def sequence : List (Script Reply α) → Script Reply (List α)
  | [] => done []
  | script :: rest => script.bind fun value => (sequence rest).bind fun values =>
      done (value :: values)

/-- Runs scripts side by side and collects their values in the order of the
scripts. A turn of a script that has finished is passed over. -/
def interleave : (schedule : List Nat) → List (Script Reply α) → Script Reply (List α)
  | [], scripts => sequence scripts
  | turn :: schedule, scripts =>
      match scripts[turn]? with
      | some (ask question next) =>
          ask question fun reply => interleave schedule (scripts.set turn (next reply))
      | _ => interleave schedule scripts

theorem length_sequence {σ : Type} (handle : (question : Question) → σ → Reply question × σ)
    (scripts : List (Script Reply α)) (state : σ) :
    ((sequence scripts).run handle state).1.length = scripts.length := by
  induction scripts generalizing state with
  | nil => rfl
  | cons script rest ih => simp only [sequence, run_bind, run, List.length_cons, ih]

/-- Every script gives one value, whatever the schedule. -/
theorem length_interleave {σ : Type}
    (handle : (question : Question) → σ → Reply question × σ) (schedule : List Nat)
    (scripts : List (Script Reply α)) (state : σ) :
    ((interleave schedule scripts).run handle state).1.length = scripts.length := by
  induction schedule generalizing scripts state with
  | nil => exact length_sequence handle scripts state
  | cons turn schedule ih =>
      rw [interleave]
      split
      · simp only [run, ih, List.length_set]
      · exact ih scripts state

end StoreTrial.Script
