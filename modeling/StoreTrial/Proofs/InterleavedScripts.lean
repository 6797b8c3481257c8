import Mathlib.Data.List.Basic
import StoreTrial.Script.Interleaving

/-! # Scripts side by side

Scripts that run side by side ask their questions in states that the others have changed. The
ways in which they can take turns are those that schedules give
(`StoreTrial.Script.exists_interleaved`, `StoreTrial.Script.Interleaved.interleave`). Still each
of them asks what it asks of its own accord: the turns of one script are played by that script
alone (`StoreTrial.Script.exists_turns_interleave`).
-/

namespace StoreTrial.Script

variable {Question : Type} {Reply : Question → Type} {σ α β : Type}
  {handle : (question : Question) → σ → Reply question × σ}

/-- The questions that a script asks, each with the state it is handled in. -/
def asked (handle : (question : Question) → σ → Reply question × σ) :
    Script Reply α → σ → List (σ × Question)
  | done _, _ => []
  | ask question next, state =>
      (state, question) ::
        (next (handle question state).1).asked handle (handle question state).2

theorem asked_bind (script : Script Reply α) (rest : α → Script Reply β) (state : σ) :
    (script.bind rest).asked handle state =
      script.asked handle state ++
        (rest (script.run handle state).1).asked handle (script.run handle state).2 := by
  induction script generalizing state with
  | done value => rfl
  | ask question next ih => simp only [bind, asked, run, ih, List.cons_append]

/-- A script asks questions and gives a value. Between its questions others may change the
state. -/
inductive Played (handle : (question : Question) → σ → Reply question × σ) :
    Script Reply α → List (σ × Question) → α → Prop where
  | done (value : α) : Played handle (.done value) [] value
  | ask {question : Question} {next : Reply question → Script Reply α} {state : σ}
      {rest : List (σ × Question)} {value : α}
      (later : Played handle (next (handle question state).1) rest value) :
      Played handle (.ask question next) ((state, question) :: rest) value

theorem Played.of_bind {script : Script Reply α} {rest : α → Script Reply β}
    {questions : List (σ × Question)} {value : β}
    (played : Played handle (script.bind rest) questions value) :
    ∃ first second middle, questions = first ++ second ∧ Played handle script first middle ∧
      Played handle (rest middle) second value := by
  induction script generalizing questions with
  | done middle => exact ⟨[], questions, middle, rfl, .done middle, played⟩
  | ask question next ih =>
      cases played with
      | ask later =>
          obtain ⟨first, second, middle, rfl, start, ending⟩ := ih _ later
          exact ⟨_ :: first, second, middle, rfl, .ask start, ending⟩

/-- A question in a state, and the index of the script that asks it. -/
abbrev Turn (σ Question : Type) := Nat × σ × Question

/-- The questions of the script at an index. -/
def questionsOf (turns : List (Turn σ Question)) (index : Nat) : List (σ × Question) :=
  (turns.filter (·.1 = index)).map Prod.snd

theorem questionsOf_cons (turn : Turn σ Question) (turns : List (Turn σ Question)) (index : Nat) :
    questionsOf (turn :: turns) index =
      if turn.1 = index then turn.2 :: questionsOf turns index else questionsOf turns index := by
  by_cases own : turn.1 = index
  · simp only [questionsOf, own, List.filter_cons, decide_true, if_true, List.map_cons]
  · simp only [questionsOf, own, List.filter_cons, decide_false, if_false, Bool.false_eq_true]

/-- Every script plays its own turns and no others. -/
structure Shared (handle : (question : Question) → σ → Reply question × σ)
    (scripts : List (Script Reply α)) (turns : List (Turn σ Question)) (values : List α) :
    Prop where
  indices : ∀ turn ∈ turns, turn.1 < scripts.length
  each : ∀ {index : Nat} {script : Script Reply α}, scripts[index]? = some script →
    ∃ value, values[index]? = some value ∧ Played handle script (questionsOf turns index) value

/-- A turn of one of the scripts comes before what the scripts do then. -/
theorem Shared.turn {scripts : List (Script Reply α)} {turns : List (Turn σ Question)}
    {values : List α} {index : Nat} {question : Question} {next : Reply question → Script Reply α}
    {state : σ} (found : scripts[index]? = some (.ask question next))
    (shared : Shared handle (scripts.set index (next (handle question state).1)) turns values) :
    Shared handle scripts ((index, state, question) :: turns) values where
  indices := by
    obtain ⟨bound, _⟩ := List.getElem?_eq_some_iff.mp found
    intro turn member
    rcases List.mem_cons.mp member with rfl | later
    · exact bound
    · simpa using shared.indices turn later
  each := by
    obtain ⟨bound, _⟩ := List.getElem?_eq_some_iff.mp found
    intro other script present
    rw [questionsOf_cons]
    by_cases own : index = other
    · subst own
      cases found.symm.trans present
      obtain ⟨value, given, later⟩ := shared.each (List.getElem?_set_self bound)
      rw [if_pos rfl]
      exact ⟨value, given, .ask later⟩
    · rw [if_neg own]
      apply shared.each
      rw [List.getElem?_set_ne own, present]

/-- Scripts take turns until all of them have finished. In a turn one script that has not finished
asks its question. -/
inductive Interleaved (handle : (question : Question) → σ → Reply question × σ) :
    List (Script Reply α) → σ → List (Turn σ Question) → List α → σ → Prop where
  | done (values : List α) (state : σ) : Interleaved handle (values.map .done) state [] values state
  | turn {scripts : List (Script Reply α)} {index : Nat} {question : Question}
      {next : Reply question → Script Reply α} {state last : σ} {turns : List (Turn σ Question)}
      {values : List α} (found : scripts[index]? = some (.ask question next))
      (later : Interleaved handle (scripts.set index (next (handle question state).1))
        (handle question state).2 turns values last) :
      Interleaved handle scripts state ((index, state, question) :: turns) values last

namespace Interleaved

variable {scripts : List (Script Reply α)} {state last : σ} {turns : List (Turn σ Question)}
  {values : List α}

/-- Of scripts that take turns each plays its own. -/
theorem shared (interleaved : Interleaved handle scripts state turns values last) :
    Shared handle scripts turns values := by
  induction interleaved with
  | done values state =>
      refine ⟨fun turn member => absurd member List.not_mem_nil, ?_⟩
      intro index script present
      rw [List.getElem?_map, Option.map_eq_some_iff] at present
      obtain ⟨value, given, rfl⟩ := present
      exact ⟨value, given, .done value⟩
  | turn found later ih => exact ih.turn found

/-- A view of the state that no turn changes is the same in the end. -/
theorem view_eq {ν : Type} {view : σ → ν}
    (interleaved : Interleaved handle scripts state turns values last)
    (kept : ∀ turn ∈ turns, view (handle turn.2.2 turn.2.1).2 = view turn.2.1) :
    view last = view state := by
  induction interleaved with
  | done values state => rfl
  | turn found later ih =>
      obtain ⟨first, others⟩ := List.forall_mem_cons.mp kept
      exact (ih others).trans first

/-- A script that has finished takes no turn. -/
theorem cons_done (value : α) (interleaved : Interleaved handle scripts state turns values last) :
    Interleaved handle (.done value :: scripts) state
      (turns.map fun turn => (turn.1 + 1, turn.2)) (value :: values) last := by
  induction interleaved with
  | done values state => exact .done (value :: values) state
  | @turn scripts index question next _ _ _ _ found later ih =>
      have shifted : (.done value :: scripts)[index + 1]? = some (.ask question next) := found
      exact .turn shifted ih

/-- A script that asks before the others comes first. -/
theorem cons {script : Script Reply α}
    (interleaved : Interleaved handle scripts (script.run handle state).2 turns values last) :
    Interleaved handle (script :: scripts) state
      ((script.asked handle state).map (Prod.mk 0) ++
        turns.map fun turn => (turn.1 + 1, turn.2))
      ((script.run handle state).1 :: values) last := by
  induction script generalizing state with
  | done value => exact interleaved.cons_done value
  | ask question next ih =>
      have first : (.ask question next :: scripts)[0]? = some (.ask question next) := rfl
      exact .turn first (ih _ interleaved)

end Interleaved

theorem sequence_map_done (values : List α) :
    sequence (values.map .done) = (.done values : Script Reply (List α)) := by
  induction values with
  | nil => rfl
  | cons value values ih => rw [List.map_cons, sequence, bind, ih, bind]

theorem exists_interleaved_sequence (scripts : List (Script Reply α)) (state : σ) :
    ∃ turns, (sequence scripts).asked handle state = turns.map Prod.snd ∧
      Interleaved handle scripts state turns ((sequence scripts).run handle state).1
        ((sequence scripts).run handle state).2 := by
  induction scripts generalizing state with
  | nil => exact ⟨[], rfl, .done [] state⟩
  | cons script rest ih =>
      obtain ⟨turns, asks, interleaved⟩ := ih (script.run handle state).2
      refine ⟨(script.asked handle state).map (Prod.mk 0) ++
        turns.map fun turn => (turn.1 + 1, turn.2), ?_, ?_⟩
      · simp only [sequence, asked_bind, asked, asks, List.append_nil, List.map_append,
          List.map_map]
        simp [Function.comp_def]
      · have ran : (sequence (script :: rest)).run handle state =
            ((script.run handle state).1 ::
                ((sequence rest).run handle (script.run handle state).2).1,
              ((sequence rest).run handle (script.run handle state).2).2) := by
          simp only [sequence, run_bind, run]
        rw [ran]
        exact interleaved.cons

/-- **Every schedule lets scripts take turns.** -/
theorem exists_interleaved (schedule : List Nat) (scripts : List (Script Reply α)) (state : σ) :
    ∃ turns, (interleave schedule scripts).asked handle state = turns.map Prod.snd ∧
      Interleaved handle scripts state turns ((interleave schedule scripts).run handle state).1
        ((interleave schedule scripts).run handle state).2 := by
  -- By induction on the schedule, over all scripts: after a turn its script has become the rest.
  induction schedule generalizing scripts state with
  | nil => exact exists_interleaved_sequence scripts state
  | cons index schedule ih =>
      rw [interleave]
      split
      · rename_i question next found
        obtain ⟨turns, asked, interleaved⟩ :=
          ih (scripts.set index (next (handle question state).1)) (handle question state).2
        exact ⟨(index, state, question) :: turns, congrArg ((state, question) :: ·) asked,
          .turn found interleaved⟩
      · exact ih scripts state

/-- **However scripts take turns, a schedule lets them do so.** -/
theorem Interleaved.interleave {scripts : List (Script Reply α)} {state last : σ}
    {turns : List (Turn σ Question)} {values : List α}
    (interleaved : Interleaved handle scripts state turns values last) :
    (Script.interleave (turns.map Prod.fst) scripts).run handle state = (values, last) ∧
      (Script.interleave (turns.map Prod.fst) scripts).asked handle state =
        turns.map Prod.snd := by
  induction interleaved with
  | done values state =>
      rw [List.map_nil, Script.interleave, sequence_map_done]
      exact ⟨rfl, rfl⟩
  | turn found later ih =>
      obtain ⟨ran, asks⟩ := ih
      rw [List.map_cons, Script.interleave, found]
      exact ⟨ran, congrArg (_ :: ·) asks⟩

/-- **Interleaved scripts ask what each of them asks of its own accord**, and each gives its
value, whatever the schedule. -/
theorem exists_turns_interleave (schedule : List Nat) (scripts : List (Script Reply α))
    (state : σ) :
    ∃ turns, (interleave schedule scripts).asked handle state = turns.map Prod.snd ∧
      Shared handle scripts turns ((interleave schedule scripts).run handle state).1 := by
  obtain ⟨turns, asked, interleaved⟩ := exists_interleaved schedule scripts state
  exact ⟨turns, asked, interleaved.shared⟩

end StoreTrial.Script
