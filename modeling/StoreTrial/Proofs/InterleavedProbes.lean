import StoreTrial.Proofs.InterleavedScripts
import StoreTrial.Proofs.KeyedEngines

/-! # Probes side by side

What interleaved attempts call: the parts of an attempt are played one after another up to the
first that stops (`StoreTrial.Attempt.of_played_bind`), and the calls of one attempt are those on
its keys, if the others have other keys (`StoreTrial.callsAmong_turns`).
-/

namespace StoreTrial

variable {σ α β : Type} {engine : Engine σ} {clock : Nat → Nat}

/-- The calls among some questions. -/
def Probe.callsOf (questions : List ((σ × Nat) × Probe)) : List (σ × Request) :=
  questions.flatMap fun question => question.2.callAt question.1.1

/-- Questions are these calls, each in the state that it meets. -/
def AreCalls (questions : List ((σ × Nat) × Probe)) (made : List (σ × Request)) : Prop :=
  questions.map (Prod.map Prod.fst id) = made.map (Prod.map id Probe.call)

namespace AreCalls

variable {questions others : List ((σ × Nat) × Probe)} {made more : List (σ × Request)}

theorem append (first : AreCalls questions made) (second : AreCalls others more) :
    AreCalls (questions ++ others) (made ++ more) := by
  rw [AreCalls, List.map_append, List.map_append, first, second]

theorem callsOf_eq (calls : AreCalls questions made) : Probe.callsOf questions = made := by
  induction questions generalizing made with
  | nil =>
      cases made with
      | nil => rfl
      | cons _ _ => cases calls
  | cons question questions ih =>
      cases made with
      | nil => cases calls
      | cons call made =>
          obtain ⟨⟨state, readings⟩, probe⟩ := question
          obtain ⟨same, rest⟩ := List.cons.inj calls
          cases same
          exact congrArg (call :: ·) (ih rest)

theorem exists_call (calls : AreCalls questions made) :
    ∀ question ∈ questions, ∃ call ∈ made, question.2 = .call call.2 := by
  intro question member
  have image := List.mem_map_of_mem (f := Prod.map Prod.fst id) member
  rw [calls] at image
  obtain ⟨call, present, same⟩ := List.mem_map.mp image
  exact ⟨call, present, (congrArg Prod.snd same).symm⟩

end AreCalls

namespace Script

theorem calls_eq_callsOf (script : Script Probe.Reply α) (state : σ × Nat) :
    script.calls engine clock state =
      Probe.callsOf (script.asked (Probe.answer engine clock) state) := by
  induction script generalizing state with
  | done value => rfl
  | ask probe next ih => rw [calls, asked, Probe.callsOf, List.flatMap_cons, ih, Probe.callsOf]

theorem readings_run {script : Script Probe.Reply α} {state : σ × Nat}
    (others : ∀ question ∈ script.asked (Probe.answer engine clock) state,
      question.2 ≠ .instant) :
    (script.run (Probe.answer engine clock) state).2.2 = state.2 := by
  induction script generalizing state with
  | done value => rfl
  | ask probe next ih =>
      have later := ih _ fun question member => others question (List.mem_cons_of_mem _ member)
      cases probe with
      | instant => exact absurd rfl (others _ List.mem_cons_self)
      | call _ | log _ => exact later

end Script

namespace Attempt

open Script

theorem of_played_call {request : Request} {questions : List ((σ × Nat) × Probe)}
    {outcome : Outcome request.Answer}
    (played : Played (Probe.answer engine clock) (call request).script questions outcome) :
    ∃ state, AreCalls questions [(state, request)] ∧ outcome = (engine request state).1 := by
  cases played with
  | @ask _ _ state _ _ later =>
      cases later with
      | done _ => exact ⟨state.1, rfl, rfl⟩

/-- A play of an attempt goes on after its first part, or stops with it. -/
theorem of_played_bind {attempt : Attempt α} {rest : α → Attempt β}
    {questions : List ((σ × Nat) × Probe)} {outcome : Outcome β}
    (played : Played (Probe.answer engine clock) (attempt >>= rest).script questions outcome) :
    (∃ first second value, questions = first ++ second ∧
      Played (Probe.answer engine clock) attempt.script first (.ok value) ∧
      Played (Probe.answer engine clock) (rest value).script second outcome) ∨
    ∃ stop, Played (Probe.answer engine clock) attempt.script questions (.error stop) ∧
      outcome = .error stop := by
  obtain ⟨first, second, middle, rfl, start, ending⟩ := Played.of_bind played
  cases middle with
  | ok value => exact .inl ⟨first, second, value, rfl, start, ending⟩
  | error stop =>
      cases ending with
      | done _ => exact .inr ⟨stop, by rwa [List.append_nil], rfl⟩

end Attempt

/-- If each script has its own keys, the calls on those of one script are the calls of its turns. -/
theorem callsAmong_turns {keys : List Bytes} {index : Nat}
    {turns : List (Script.Turn (σ × Nat) Probe)}
    (apart : ∀ turn ∈ turns, ∃ request key, turn.2.2 = .call request ∧ request.key? = some key ∧
      (key ∈ keys ↔ turn.1 = index)) :
    callsAmong keys (Probe.callsOf (turns.map Prod.snd)) =
      Probe.callsOf (Script.questionsOf turns index) := by
  induction turns with
  | nil => rfl
  | cons turn turns ih =>
      obtain ⟨request, key, call, keyed, own⟩ := apart turn List.mem_cons_self
      have later := ih fun other member => apart other (List.mem_cons_of_mem _ member)
      obtain ⟨tag, state, probe⟩ := turn
      cases call
      have among : request.isAmong keys = decide (tag = index) := by
        simp [Request.isAmong, keyed, own]
      change callsAmong keys ((state.1, request) :: Probe.callsOf (turns.map Prod.snd)) = _
      rw [Script.questionsOf_cons]
      by_cases mine : tag = index
      · rw [if_pos mine, callsAmong, List.filter_cons_of_pos (by simpa [among] using mine)]
        exact congrArg ((state.1, request) :: ·) later
      · rw [if_neg mine, callsAmong, List.filter_cons_of_neg (by simpa [among] using mine)]
        exact later

end StoreTrial
