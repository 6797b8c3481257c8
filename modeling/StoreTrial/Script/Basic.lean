/-! # Scripts

Computations that ask questions and go on with the replies. A script says what it
asks and in which order; what the replies are, and what asking does, is left to
the handler that runs it.
-/

namespace StoreTrial

/-- A computation of a value that may first ask questions. -/
inductive Script {Question : Type} (Reply : Question → Type) (α : Type) where
  | done (value : α)
  | ask (question : Question) (next : Reply question → Script Reply α)

namespace Script

variable {Question : Type} {Reply : Question → Type} {α β γ : Type}

/-- Goes on with a second script that depends on the value of the first. -/
def bind : Script Reply α → (α → Script Reply β) → Script Reply β
  | done value, rest => rest value
  | ask question next, rest => ask question fun reply => (next reply).bind rest

instance : Monad (Script Reply) where
  pure := done
  bind := bind

/-- Asks one question and gives its reply. -/
def query (question : Question) : Script Reply (Reply question) := ask question done

/-- Runs a script: each question is handled in the state that the ones before it
left. -/
def run {σ : Type} (handle : (question : Question) → σ → Reply question × σ) :
    Script Reply α → σ → α × σ
  | done value, state => (value, state)
  | ask question next, state =>
      let (reply, left) := handle question state
      (next reply).run handle left

/-- Replaces every question by a script over other questions. -/
def interpret {Other : Type} {OtherReply : Other → Type}
    (answer : (question : Question) → Script OtherReply (Reply question)) :
    Script Reply α → Script OtherReply α
  | done value => done value
  | ask question next => (answer question).bind fun reply => (next reply).interpret answer

theorem bind_done (script : Script Reply α) : script.bind done = script := by
  induction script with
  | done value => rfl
  | ask question next ih => simp only [bind, ih]

theorem bind_assoc (script : Script Reply α) (first : α → Script Reply β)
    (second : β → Script Reply γ) :
    (script.bind first).bind second = script.bind fun value => (first value).bind second := by
  induction script with
  | done value => rfl
  | ask question next ih => simp only [bind, ih]

instance : LawfulMonad (Script Reply) :=
  LawfulMonad.mk' (Script Reply) bind_done (fun _ _ => rfl) bind_assoc

/-- Running two scripts one after the other hands the state on. -/
theorem run_bind {σ : Type} (handle : (question : Question) → σ → Reply question × σ)
    (script : Script Reply α) (rest : α → Script Reply β) (state : σ) :
    (script.bind rest).run handle state =
      (rest (script.run handle state).1).run handle (script.run handle state).2 := by
  induction script generalizing state with
  | done value => rfl
  | ask question next ih => simp only [bind, run, ih]

end Script

end StoreTrial
