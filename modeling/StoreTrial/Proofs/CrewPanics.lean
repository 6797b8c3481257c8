import StoreTrial.Host.World
import StoreTrial.Proofs.InterleavedScripts
import StoreTrial.Trial.Crew

/-! # Panics in a crew

A question stands for an atomic step on the state that the tasks of a crew share. However the steps
follow each other, every task of a crew is played once and to its end before the crew ends, even if
others have panicked. The crew then returns if none has panicked, and otherwise ends in the panic
of the first task that has, in the order of the tasks and not of the panics
(`StoreTrial.Crew.resumes_first_panic`).
-/

namespace StoreTrial

variable {σ π : Type} {answer : (question : Question) → σ → question.Reply × σ}

namespace Script

variable {Question : Type} {Reply : Question → Type} {α : Type}
  {handle : (question : Question) → σ → Reply question × σ}

theorem interleave_nil (schedule : List Nat) :
    interleave schedule [] = (.done [] : Script Reply (List α)) := by
  induction schedule with
  | nil => rfl
  | cons turn schedule ih =>
      rw [interleave, List.getElem?_nil]
      exact ih

theorem Interleaved.length_values {scripts : List (Script Reply α)} {state last : σ}
    {turns : List (Turn σ Question)} {values : List α}
    (interleaved : Interleaved handle scripts state turns values last) :
    values.length = scripts.length := by
  induction interleaved with
  | done values state => rw [List.length_map]
  | turn found later ih => rw [ih, List.length_set]

end Script

namespace Crew

/-- The end of a crew whose tasks have ended. -/
def conclude (tasks : Nat) (endings : List (Except π Unit)) : Dialogue (Except π Unit) :=
  match endings.findSome? panicOf with
  | none => .done (.ok ())
  | some payload => .ask (.log (.taskPanicked tasks)) fun _ => .done (.error payload)

/-- A crew ends after its tasks. -/
theorem run_eq_bind (schedule : List Nat) (tasks : List (CrewTask π)) :
    run schedule tasks = (Script.interleave schedule tasks).bind (conclude tasks.length) := by
  cases tasks with
  | nil => rw [Script.interleave_nil]; rfl
  | cons task tasks =>
      refine congrArg (Script.bind _) (funext fun endings => ?_)
      rw [conclude]
      cases endings.findSome? panicOf with
      | none => rfl
      | some payload => rfl

theorem panicOf_eq_none_iff {ending : Except π Unit} : panicOf ending = none ↔ ending = .ok () := by
  cases ending with
  | ok done => simp [panicOf]
  | error payload => simp [panicOf]

theorem panicOf_eq_some_iff {ending : Except π Unit} {payload : π} :
    panicOf ending = some payload ↔ ending = .error payload := by
  cases ending with
  | ok done => simp [panicOf]
  | error other => simp [panicOf]

theorem findSome?_panicOf_eq_none_iff {endings : List (Except π Unit)} :
    endings.findSome? panicOf = none ↔ ∀ ending ∈ endings, ending = .ok () := by
  simp only [List.findSome?_eq_none_iff, panicOf_eq_none_iff]

/-- The panic that is found belongs to the first task that had one. -/
theorem findSome?_panicOf_eq_some_iff {endings : List (Except π Unit)} {payload : π} :
    endings.findSome? panicOf = some payload ↔
      ∃ index : Nat, endings[index]? = some (.error payload) ∧
        ∀ earlier < index, endings[earlier]? = some (.ok ()) := by
  induction endings with
  | nil => simp
  | cons ending endings ih =>
      cases ending with
      | error other =>
          rw [List.findSome?_cons_of_isSome (by rfl)]
          constructor
          · intro found
            exact ⟨0, congrArg some (panicOf_eq_some_iff.mp found), fun earlier below => by omega⟩
          · rintro ⟨index, found, before⟩
            cases index with
            | zero => exact panicOf_eq_some_iff.mpr (Option.some.inj found)
            | succ index => cases before 0 (Nat.zero_lt_succ index)
      | ok done =>
          rw [List.findSome?_cons_of_isNone (by rfl), ih]
          constructor
          · rintro ⟨index, found, before⟩
            refine ⟨index + 1, found, fun earlier below => ?_⟩
            cases earlier with
            | zero => rfl
            | succ earlier => exact before earlier (Nat.lt_of_succ_lt_succ below)
          · rintro ⟨index, found, before⟩
            cases index with
            | zero => cases found
            | succ index =>
                exact ⟨index, found, fun earlier below => before _ (Nat.succ_lt_succ below)⟩

/-- What a crew asks of its own accord at its end, in the state that its tasks left. -/
def report (tasks : Nat) (left : σ) : Except π Unit → List (σ × Question)
  | .ok () => []
  | .error _ => [(left, .log (.taskPanicked tasks))]

/-- What becomes of a crew whose tasks have taken these turns and ended so. -/
structure Joined (answer : (question : Question) → σ → question.Reply × σ) (schedule : List Nat)
    (tasks : List (CrewTask π)) (state : σ) (turns : List (Script.Turn σ Question))
    (endings : List (Except π Unit)) (left : σ) : Prop where
  /-- Every task is played once, from its start to its end. -/
  once : ∀ index task, tasks[index]? = some task → ∃ ending, endings[index]? = some ending ∧
    Script.Played answer task (Script.questionsOf turns index) ending
  /-- Nothing else takes turns. -/
  only : (∀ turn ∈ turns, turn.1 < tasks.length) ∧ endings.length = tasks.length
  /-- The crew ends after all turns of its tasks. -/
  waits : (run schedule tasks).asked answer state =
    turns.map Prod.snd ++ report tasks.length left ((run schedule tasks).run answer state).1
  returns : ((run schedule tasks).run answer state).1 = .ok () ↔
    ∀ ending ∈ endings, ending = .ok ()
  /-- The panic of the first task that had one is resumed with its payload. -/
  resumes : ∀ payload, ((run schedule tasks).run answer state).1 = .error payload ↔
    ∃ index : Nat, endings[index]? = some (.error payload) ∧
      ∀ earlier < index, endings[earlier]? = some (.ok ())

theorem asked_conclude (tasks : Nat) (endings : List (Except π Unit)) (left : σ) :
    (conclude tasks endings).asked answer left =
      report tasks left ((conclude tasks endings).run answer left).1 := by
  rw [conclude]
  cases endings.findSome? panicOf with
  | none => rfl
  | some payload => rfl

theorem conclude_eq_ok_iff {tasks : Nat} {endings : List (Except π Unit)} {left : σ} :
    ((conclude tasks endings).run answer left).1 = .ok () ↔
      endings.findSome? panicOf = none := by
  rw [conclude]
  cases endings.findSome? panicOf with
  | none => simp [Script.run]
  | some payload => simp [Script.run]

theorem conclude_eq_error_iff {tasks : Nat} {endings : List (Except π Unit)} {left : σ}
    {payload : π} :
    ((conclude tasks endings).run answer left).1 = .error payload ↔
      endings.findSome? panicOf = some payload := by
  rw [conclude]
  cases endings.findSome? panicOf with
  | none => simp [Script.run]
  | some other => simp [Script.run]

theorem joined_of_interleaved {schedule : List Nat} {tasks : List (CrewTask π)} {state left : σ}
    {turns : List (Script.Turn σ Question)} {endings : List (Except π Unit)}
    (interleaved : Script.Interleaved answer tasks state turns endings left)
    (asked : (Script.interleave schedule tasks).asked answer state = turns.map Prod.snd)
    (ran : (Script.interleave schedule tasks).run answer state = (endings, left)) :
    Joined answer schedule tasks state turns endings left := by
  have ended : (run schedule tasks).run answer state =
      (conclude tasks.length endings).run answer left := by
    rw [run_eq_bind, Script.run_bind, ran]
  constructor
  · intro index task found
    exact interleaved.shared.each found
  · exact ⟨interleaved.shared.indices, interleaved.length_values⟩
  · rw [ended, run_eq_bind, Script.asked_bind, asked, ran, asked_conclude]
  · rw [ended, conclude_eq_ok_iff, findSome?_panicOf_eq_none_iff]
  · intro payload
    rw [ended, conclude_eq_error_iff, findSome?_panicOf_eq_some_iff]

/-- **A crew ends in the panic of its first task that had one**, and only after all of its tasks
have ended. Whatever the tasks ask and are replied, this is so under every schedule, and so for
every way in which the tasks can take turns. -/
theorem resumes_first_panic (answer : (question : Question) → σ → question.Reply × σ)
    (tasks : List (CrewTask π)) (state : σ) :
    (∀ schedule, ∃ turns endings left,
      Script.Interleaved answer tasks state turns endings left ∧
        Joined answer schedule tasks state turns endings left) ∧
    ∀ turns endings left, Script.Interleaved answer tasks state turns endings left →
      ∃ schedule, Joined answer schedule tasks state turns endings left := by
  constructor
  · intro schedule
    obtain ⟨turns, asked, interleaved⟩ :
        ∃ turns, (Script.interleave schedule tasks).asked answer state = turns.map Prod.snd ∧
          Script.Interleaved answer tasks state turns _ _ :=
      Script.exists_interleaved schedule tasks state
    exact ⟨turns, _, _, interleaved, joined_of_interleaved interleaved asked rfl⟩
  · intro turns endings left interleaved
    obtain ⟨ran, asked⟩ := interleaved.interleave
    exact ⟨turns.map Prod.fst, joined_of_interleaved interleaved asked ran⟩

/-- A task that leaves a mark panics as it was told to. -/
theorem panicOf_of_played_marking {ledger : Ledger} {panic : Option String}
    {questions : List (σ × Question)} {ending : Except String Unit}
    (played : Script.Played answer (marking ledger panic) questions ending) :
    panicOf ending = panic := by
  cases played with
  | ask later =>
      cases panic with
      | none => cases later; rfl
      | some message => cases later; rfl

/-- The second task panics before the others take their turns, and the panic of the first task is
resumed after all of them. -/
theorem resumes_first_panic_second_first :
    let tasks : List (CrewTask String) :=
      [marking 0 (some "first"), marking 1 (some "second"), marking 2 none]
    let world := World.fresh "root" 0
    ((run [1, 2, 0] tasks).asked World.answer world).map Prod.snd =
        [.note 1 "", .note 2 "", .note 0 "", .log (.taskPanicked 3)] ∧
      ∃ turns endings left, Joined World.answer [1, 2, 0] tasks world turns endings left ∧
        endings[0]? = some (.error "first") ∧ endings[1]? = some (.error "second") ∧
        ((run [1, 2, 0] tasks).run World.answer world).1 = .error "first" := by
  intro tasks world
  obtain ⟨turns, endings, left, _, joined⟩ :=
    (resumes_first_panic World.answer tasks world).1 [1, 2, 0]
  obtain ⟨first, firstEnded, firstPlayed⟩ := joined.once 0 _ rfl
  obtain ⟨second, secondEnded, secondPlayed⟩ := joined.once 1 _ rfl
  rw [panicOf_eq_some_iff.mp (panicOf_of_played_marking firstPlayed)] at firstEnded
  rw [panicOf_eq_some_iff.mp (panicOf_of_played_marking secondPlayed)] at secondEnded
  refine ⟨rfl, turns, endings, left, joined, firstEnded, secondEnded, ?_⟩
  exact (joined.resumes "first").mpr
    ⟨0, firstEnded, fun earlier below => absurd below (Nat.not_lt_zero earlier)⟩

end Crew

end StoreTrial
