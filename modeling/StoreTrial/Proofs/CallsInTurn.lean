import StoreTrial.Proofs.EngineProbing

/-! # Calls in turn

Requests that are called one after another, up to the first that an engine refuses
(`StoreTrial.Engine.InTurn`). An attempt may be known by its requests and its ending alone: on
every engine it calls these requests in turn, and ends so if none of them is refused
(`StoreTrial.Attempt.Makes`, `StoreTrial.Probing.Makes`). What is put together from such attempts
makes the requests of its parts one after another.
-/

namespace StoreTrial

variable {σ α β : Type}

/-- From one state requests are called one after another, up to the first that is refused. -/
inductive Engine.InTurn (engine : Engine σ) :
    List Request → σ → List (σ × Request) → Outcome Unit → σ → Prop where
  | finished (state : σ) : InTurn engine [] state [] (.ok ()) state
  | answered {request : Request} {rest : List Request} {before after : σ}
      {made : List (σ × Request)} {outcome : Outcome Unit} {answer : request.Answer}
      (granted : (engine request before).1 = .ok answer)
      (later : InTurn engine rest (engine request before).2 made outcome after) :
      InTurn engine (request :: rest) before ((before, request) :: made) outcome after
  | refused {request : Request} {rest : List Request} {before : σ} {stop : Stop}
      (denied : (engine request before).1 = .error stop) :
      InTurn engine (request :: rest) before [(before, request)] (.error stop)
        (engine request before).2

namespace Engine.InTurn

variable {engine : Engine σ} {requests others : List Request} {before middle after : σ}
  {made more : List (σ × Request)} {outcome : Outcome Unit} {stop : Stop}

/-- Requests that were all granted may be followed by others. -/
theorem append (first : engine.InTurn requests before made (.ok ()) middle)
    (second : engine.InTurn others middle more outcome after) :
    engine.InTurn (requests ++ others) before (made ++ more) outcome after := by
  generalize fine : (Except.ok () : Outcome Unit) = granted at first
  induction first with
  | finished state => exact second
  | answered granted later ih => exact .answered granted (ih second fine)
  | refused denied => cases fine

theorem append_of_error (first : engine.InTurn requests before made (.error stop) after)
    (others : List Request) :
    engine.InTurn (requests ++ others) before made (.error stop) after := by
  generalize ending : (Except.error stop : Outcome Unit) = outcome at first
  induction first with
  | finished state => cases ending
  | answered granted later ih => exact .answered granted (ih ending)
  | refused denied =>
      cases ending
      exact .refused denied

theorem requests_prefix (calls : engine.InTurn requests before made outcome after) :
    made.map Prod.snd <+: requests := by
  induction calls with
  | finished state => exact List.prefix_rfl
  | answered granted later ih => exact (List.prefix_cons_inj _).mpr ih
  | refused denied => exact ⟨_, rfl⟩

theorem requests_eq (calls : engine.InTurn requests before made outcome after)
    (fine : outcome = .ok ()) : made.map Prod.snd = requests := by
  induction calls with
  | finished state => rfl
  | answered granted later ih => rw [List.map_cons, ih fine]
  | refused denied => cases fine

/-- No call comes after a refused one, and what it was answered is the outcome. -/
theorem stops (calls : engine.InTurn requests before made outcome after)
    {earlier later : List (σ × Request)} {met : σ} {request : Request}
    (split : made = earlier ++ (met, request) :: later)
    (denied : (engine request met).1 = .error stop) : later = [] ∧ outcome = .error stop := by
  induction calls generalizing earlier with
  | finished state => simp at split
  | answered granted rest ih =>
      cases earlier with
      | nil =>
          cases split
          rw [granted] at denied
          cases denied
      | cons first earlier => exact ih (List.cons.inj split).2
  | refused refusal =>
      cases earlier with
      | nil =>
          cases split
          cases refusal.symm.trans denied
          exact ⟨rfl, rfl⟩
      | cons first earlier => simp at split

theorem eq_ok_iff (calls : engine.InTurn requests before made outcome after) :
    outcome = .ok () ↔ ∀ call ∈ made, ∃ answer, (engine call.2 call.1).1 = .ok answer := by
  induction calls with
  | finished state => simp
  | answered granted later ih =>
      rw [ih, List.forall_mem_cons]
      exact ⟨fun fine => ⟨⟨_, granted⟩, fine⟩, And.right⟩
  | refused denied => simp [denied]

end Engine.InTurn

/-- What comes of calls that an ending follows if none of them is refused. -/
def Outcome.followedBy : Outcome Unit → Outcome α → Outcome α
  | .ok (), ending => ending
  | .error stop, _ => .error stop

namespace Attempt

/-- On every engine an attempt makes these requests in turn, and ends so after the last. -/
def Makes (attempt : Attempt α) (requests : List Request) (ending : Outcome α) : Prop :=
  ∀ ⦃σ : Type⦄ (engine : Engine σ) (clock : Nat → Nat) (before : σ × Nat),
    ∃ made outcome after,
      Ends engine clock attempt before made (Outcome.followedBy outcome ending) after ∧
      engine.InTurn requests before.1 made outcome after.1

variable {attempt : Attempt α} {requests others : List Request} {stop : Stop}

theorem makes_pure (value : α) : Makes (pure value) [] (.ok value) := by
  intro σ engine clock before
  exact ⟨[], .ok (), before, ends_pure _ _, .finished _⟩

theorem makes_throw (stop : Stop) : Makes (throw stop : Attempt α) [] (.error stop) := by
  intro σ engine clock before
  exact ⟨[], .ok (), before, ends_throw _ _, .finished _⟩

theorem makes_of_asks {attempt : Attempt Unit} {request : Request}
    (asks : ∀ {σ : Type} (engine : Engine σ) (clock : Nat → Nat),
      Asks engine clock attempt request) :
    Makes attempt [request] (.ok ()) := by
  rintro σ engine clock ⟨state, readings⟩
  have asked := asks engine clock state readings
  cases answered : (engine request state).1 with
  | ok answer =>
      rw [answered] at asked
      exact ⟨_, .ok (), _, asked, .answered answered (.finished _)⟩
  | error stop =>
      rw [answered] at asked
      exact ⟨_, .error stop, _, asked, .refused answered⟩

theorem Makes.bind {rest : α → Attempt β} {value : α} {ending : Outcome β}
    (first : Makes attempt requests (.ok value)) (second : Makes (rest value) others ending) :
    Makes (attempt >>= rest) (requests ++ others) ending := by
  intro σ engine clock before
  obtain ⟨made, outcome, middle, starts, calls⟩ := first engine clock before
  cases outcome with
  | error stop => exact ⟨made, .error stop, middle, starts.bind_stop, calls.append_of_error _⟩
  | ok granted =>
      obtain ⟨more, outcome, after, ends, later⟩ := second engine clock middle
      exact ⟨made ++ more, outcome, after, starts.bind ends, calls.append later⟩

theorem Makes.bind_error {rest : α → Attempt β} (first : Makes attempt requests (.error stop)) :
    Makes (attempt >>= rest) requests (.error stop) := by
  intro σ engine clock before
  obtain ⟨made, outcome, after, starts, calls⟩ := first engine clock before
  refine ⟨made, outcome, after, ?_, calls⟩
  cases outcome with
  | error stop => exact starts.bind_stop
  | ok granted => exact starts.bind_stop

theorem makes_forM {ι : Type} {step : ι → Attempt Unit} {request : ι → List Request}
    {elements : List ι}
    (each : ∀ element ∈ elements, Makes (step element) (request element) (.ok ())) :
    Makes (elements.forM step) (elements.flatMap request) (.ok ()) := by
  induction elements with
  | nil => exact makes_pure ()
  | cons element elements ih =>
      obtain ⟨first, others⟩ := List.forall_mem_cons.mp each
      exact first.bind (ih others)

/-- A failure that is handled without a call and then thrown again. -/
theorem Makes.rethrow {ending : Outcome α} {handler : Stop → Attempt α}
    (rethrows : ∀ {σ : Type} (engine : Engine σ) (clock : Nat → Nat) stop state,
      Ends engine clock (handler stop) state [] (.error stop) state)
    (makes : Makes attempt requests ending) : Makes (tryCatch attempt handler) requests ending := by
  intro σ engine clock before
  obtain ⟨made, outcome, after, ends, calls⟩ := makes engine clock before
  exact ⟨made, outcome, after, ends.rethrow (rethrows engine clock), calls⟩

end Attempt

namespace Probing

variable {ε : Type}

/-- On every engine a probing makes these requests in turn, and ends so after the last, with
another generator. -/
def Makes (probing : Probing ε α) (generator : Generator ε) (requests : List Request)
    (ending : Outcome α) (drawn : Generator ε) : Prop :=
  ∀ ⦃σ : Type⦄ (engine : Engine σ) (clock : Nat → Nat) (before : σ × Nat),
    ∃ made outcome later after,
      Ends engine clock probing generator before made (Outcome.followedBy outcome ending) later
        after ∧
      engine.InTurn requests before.1 made outcome after.1 ∧ (outcome = .ok () → later = drawn)

variable {probing : Probing ε α} {generator drawn left : Generator ε}
  {requests others : List Request} {stop : Stop}

theorem makes_pure (value : α) (generator : Generator ε) :
    Makes (pure value) generator [] (.ok value) generator := by
  intro σ engine clock before
  exact ⟨[], .ok (), generator, before, ends_pure _ _ _, .finished _, fun _ => rfl⟩

theorem makes_draw (draw : Draw ε α) (generator : Generator ε) :
    Makes (Probing.draw draw) generator [] (.ok (draw generator).value)
      (draw generator).generator := by
  intro σ engine clock before
  exact ⟨[], .ok (), _, before, ends_draw _ _ _, .finished _, fun _ => rfl⟩

theorem makes_ofAttempt {attempt : Attempt α} {ending : Outcome α}
    (makes : Attempt.Makes attempt requests ending) (generator : Generator ε) :
    Makes (liftM attempt) generator requests ending generator := by
  intro σ engine clock before
  obtain ⟨made, outcome, after, ends, calls⟩ := makes engine clock before
  exact ⟨made, outcome, generator, after, ends_ofAttempt ends _, calls, fun _ => rfl⟩

theorem Makes.bind {rest : α → Probing ε β} {value : α} {ending : Outcome β}
    (first : Makes probing generator requests (.ok value) drawn)
    (second : Makes (rest value) drawn others ending left) :
    Makes (probing >>= rest) generator (requests ++ others) ending left := by
  intro σ engine clock before
  obtain ⟨made, outcome, later, middle, starts, calls, kept⟩ := first engine clock before
  cases outcome with
  | error stop =>
      exact ⟨made, .error stop, later, middle, starts.bind_stop, calls.append_of_error _, nofun⟩
  | ok granted =>
      obtain rfl := kept rfl
      obtain ⟨more, outcome, last, after, ends, rest, kept⟩ := second engine clock middle
      exact ⟨made ++ more, outcome, last, after, starts.bind ends, calls.append rest, kept⟩

theorem Makes.bind_pure {value : α} (makes : Makes probing generator requests (.ok value) drawn)
    (result : α → β) :
    Makes (probing >>= fun value => pure (result value)) generator requests (.ok (result value))
      drawn := by
  rw [← List.append_nil requests]
  exact makes.bind (makes_pure _ _)

theorem Makes.draw_bind {draw : Draw ε α} {rest : α → Probing ε β} {ending : Outcome β}
    (makes : Makes (rest (draw generator).value) (draw generator).generator requests ending drawn) :
    Makes (Probing.draw draw >>= rest) generator requests ending drawn :=
  (makes_draw draw generator).bind makes

theorem Makes.bind_error {rest : α → Probing ε β}
    (first : Makes probing generator requests (.error stop) drawn) :
    Makes (probing >>= rest) generator requests (.error stop) drawn := by
  intro σ engine clock before
  obtain ⟨made, outcome, later, after, starts, calls, kept⟩ := first engine clock before
  refine ⟨made, outcome, later, after, ?_, calls, kept⟩
  cases outcome with
  | error stop => exact starts.bind_stop
  | ok granted => exact starts.bind_stop

end Probing

end StoreTrial
