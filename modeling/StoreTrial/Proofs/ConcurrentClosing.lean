import StoreTrial.Proofs.SharedHandle

/-! # Closing among concurrent calls

The call that closes a handle saves the store some time after it has set the closed flag.
A call that was accepted before may be performed later still. A handle that saves every
change saves it then; any other leaves it out of the snapshot
(`StoreTrial.SharedHandle.saved_by_closing_iff`).

A handle goes through three stages, each kept by every turn but the one that leads to the
next: `Unclosed`, `Closing` by one call, and `Closed`.
-/

namespace StoreTrial.SharedHandle

variable {shared : SharedHandle} {choice : Enumeration × Nat} {call next : SharedCall}
  {schedule : List (Enumeration × Nat)}

theorem notMem_set {calls : List SharedCall} {index : Nat} (absent : call ∉ calls)
    (different : next ≠ call) : call ∉ calls.set index next := by
  intro member
  rcases List.mem_or_eq_of_mem_set member with before | same
  · exact absent before
  · exact different same.symm

/-- No call has closed the handle. -/
structure Unclosed (shared : SharedHandle) : Prop where
  opened : shared.engine.closed = false
  unasked : .accepted .close ∉ shared.calls
  unanswered : .returned .close (.ok ()) ∉ shared.calls

/-- A call has closed the handle and is yet to save the store. -/
structure Closing (winner : Nat) (shared : SharedHandle) : Prop where
  closed : shared.engine.closed = true
  asked : shared.calls[winner]? = some (.accepted .close)
  alone : ∀ other, shared.calls[other]? = some (.accepted .close) → other = winner
  unanswered : .returned .close (.ok ()) ∉ shared.calls

/-- The handle is closed, and no call is about to save the store for that. -/
structure Closed (shared : SharedHandle) : Prop where
  closed : shared.engine.closed = true
  settled : .accepted .close ∉ shared.calls

theorem Unclosed.turn (unclosed : shared.Unclosed) (choice : Enumeration × Nat) :
    (shared.turn choice).Unclosed ∨ (shared.turn choice).Closing choice.2 := by
  obtain ⟨left, moved, turned⟩ := shared.turned choice
  rw [moved]
  cases turned with
  | passed _ => exact .inl unclosed
  | refused _ closed => exact absurd closed (by simp [unclosed.opened])
  | admitted _ opened other =>
      refine .inl ⟨opened, notMem_set unclosed.unasked ?_, notMem_set unclosed.unanswered ?_⟩
      · simpa using other
      · simp
  | closing waiting _ =>
      refine .inr ⟨rfl, getElem?_set_self_of_some waiting, ?_,
        notMem_set unclosed.unanswered (by simp)⟩
      intro other asked
      rw [getElem?_set_of_some waiting] at asked
      split at asked
      · rename_i same
        exact same.symm
      · exact absurd (List.mem_of_getElem? asked) unclosed.unasked
  | @done request result disk accepted _ =>
      have other : request ≠ .close := by
        rintro rfl
        exact unclosed.unasked (List.mem_of_getElem? accepted)
      refine .inl ⟨unclosed.opened, notMem_set unclosed.unasked (by simp),
        notMem_set unclosed.unanswered ?_⟩
      intro same
      cases same
      exact other rfl

theorem Closing.of_answer {winner : Nat} (closing : shared.Closing winner)
    (other : choice.2 ≠ winner) (found : shared.calls[choice.2]? = some call)
    {engine : MemoryEngine} (closed : engine.closed = true) {disk : Disk} {request : Request}
    {result : Except Failure request.Answer}
    (different : SharedCall.returned request result ≠ .returned .close (.ok ())) :
    Closing winner ⟨engine, disk, shared.calls.set choice.2 (.returned request result)⟩ := by
  refine ⟨closed, ?_, ?_, notMem_set closing.unanswered different⟩
  · rw [getElem?_set_of_some found, if_neg other, closing.asked]
  · intro index asked
    rw [getElem?_set_of_some found] at asked
    split at asked
    · cases asked
    · exact closing.alone index asked

/-- Until it is performed, the call that has closed the handle remains the only one. -/
theorem Closing.turn_other {winner : Nat} (closing : shared.Closing winner)
    (other : choice.2 ≠ winner) : (shared.turn choice).Closing winner := by
  obtain ⟨left, moved, turned⟩ := shared.turned choice
  rw [moved]
  cases turned with
  | passed _ => exact closing
  | admitted _ opened _ => exact absurd opened (by simp [closing.closed])
  | closing _ opened => exact absurd opened (by simp [closing.closed])
  | refused waiting closed =>
      refine closing.of_answer other waiting closed ?_
      intro same
      cases same
  | done accepted _ =>
      refine closing.of_answer other accepted ?_ ?_
      · exact closing.closed
      · intro same
        cases same
        exact other (closing.alone _ accepted)

/-- When it is performed, it saves the store of that moment. -/
theorem Closing.turn_winner {winner : Nat} (closing : shared.Closing winner)
    (same : choice.2 = winner) (quiet : (shared.turn choice).Quiet)
    (fits : (shared.turn choice).engine.store.Fits) :
    (shared.turn choice).Closed ∧
      SnapshotFile.load shared.engine.path (shared.turn choice).disk = .ok shared.engine.store := by
  obtain ⟨left, moved, turned⟩ := shared.turned choice
  rw [moved] at quiet fits ⊢
  have asked : shared.calls[choice.2]? = some (.accepted .close) := same ▸ closing.asked
  cases turned with
  | passed idle => exact absurd asked (idle _)
  | admitted waiting _ _ => cases waiting.symm.trans asked
  | closing waiting _ => cases waiting.symm.trans asked
  | refused waiting _ => cases waiting.symm.trans asked
  | done accepted effect =>
      cases accepted.symm.trans asked
      rw [if_pos (Request.saves_close _)] at effect
      refine ⟨⟨closing.closed, fun member => ?_⟩, load_of_effect accepted quiet fits effect⟩
      obtain ⟨index, found⟩ := List.mem_iff_getElem?.mp member
      rw [getElem?_set_of_some accepted] at found
      split at found
      · cases found
      · rename_i apart
        exact apart (same.trans (closing.alone index found).symm)

theorem Closed.turn (closed : shared.Closed) (choice : Enumeration × Nat) :
    (shared.turn choice).Closed ∧
      (shared.engine.syncWrites = false → (shared.turn choice).disk = shared.disk) := by
  obtain ⟨left, moved, turned⟩ := shared.turned choice
  rw [moved]
  cases turned with
  | passed _ => exact ⟨closed, fun _ => rfl⟩
  | refused _ _ => exact ⟨⟨closed.closed, notMem_set closed.settled (by simp)⟩, fun _ => rfl⟩
  | admitted _ opened _ => exact absurd opened (by simp [closed.closed])
  | closing _ opened => exact absurd opened (by simp [closed.closed])
  | @done request result disk accepted effect =>
      have other : request ≠ .close := by
        rintro rfl
        exact closed.settled (List.mem_of_getElem? accepted)
      refine ⟨⟨closed.closed, notMem_set closed.settled (by simp)⟩, fun lazy => ?_⟩
      simpa [Request.saves_of_not_syncWrites lazy other] using effect

/-- After closing has saved, a handle that saves on close only saves nothing. -/
theorem Closed.run (closed : shared.Closed) (lazy : shared.engine.syncWrites = false) :
    (run schedule shared).disk = shared.disk := by
  induction schedule generalizing shared with
  | nil => rfl
  | cons choice rest ih =>
      obtain ⟨later, kept⟩ := closed.turn choice
      exact (ih later (turn_same.2.trans lazy)).trans (kept lazy)

/-- In some turn of a schedule the call that has closed the handle is performed. -/
def ClosesWithin (schedule : List (Enumeration × Nat)) (shared : SharedHandle) : Prop :=
  ∃ before choice after, schedule = before ++ choice :: after ∧
    (run before shared).Closing choice.2

theorem ClosesWithin.cons (closes : ClosesWithin schedule (shared.turn choice)) :
    ClosesWithin (choice :: schedule) shared := by
  obtain ⟨before, next, after, split, closing⟩ := closes
  exact ⟨choice :: before, next, after, congrArg (choice :: ·) split, closing⟩

theorem Closing.run {winner : Nat} (closing : shared.Closing winner)
    (schedule : List (Enumeration × Nat)) :
    (run schedule shared).Closing winner ∨ ClosesWithin schedule shared := by
  induction schedule generalizing shared with
  | nil => exact .inl closing
  | cons choice rest ih =>
      by_cases same : choice.2 = winner
      · exact .inr ⟨[], choice, rest, rfl, same ▸ closing⟩
      · exact (ih (closing.turn_other same)).imp_right ClosesWithin.cons

/-- Performing the call that has closed the handle leaves the memory. -/
theorem Closing.store_turn (closing : shared.Closing choice.2) :
    (shared.turn choice).engine.store = shared.engine.store := by
  rw [SharedHandle.store_turn, performs?_eq_some_iff.mpr closing.asked]
  rfl

/-- What closing has saved remains, unless every change is saved. -/
theorem load_of_closing (closing : shared.Closing choice.2)
    (lazy : shared.engine.syncWrites = false) {after : List (Enumeration × Nat)}
    (quiet : (run after (shared.turn choice)).Quiet)
    (fits : (shared.turn choice).engine.store.Fits) :
    SnapshotFile.load shared.engine.path (run after (shared.turn choice)).disk =
      .ok shared.engine.store := by
  obtain ⟨closed, saved⟩ := closing.turn_winner rfl quiet.of_run fits
  rw [closed.run (turn_same.2.trans lazy)]
  exact saved

theorem Unclosed.run (unclosed : shared.Unclosed) (schedule : List (Enumeration × Nat)) :
    (run schedule shared).Unclosed ∨ (∃ winner, (run schedule shared).Closing winner) ∨
      ClosesWithin schedule shared := by
  induction schedule generalizing shared with
  | nil => exact .inl unclosed
  | cons choice rest ih =>
      rcases unclosed.turn choice with still | closing
      · exact (ih still).imp_right (Or.imp_right ClosesWithin.cons)
      · rcases closing.run rest with still | closes
        · exact .inr (.inl ⟨choice.2, still⟩)
        · exact .inr (.inr closes.cons)

theorem unclosed_begin {engine : MemoryEngine} (opened : engine.closed = false) (disk : Disk)
    (requests : List Request) : (begin engine disk requests).Unclosed := by
  refine ⟨opened, ?_, ?_⟩
  · simp [begin]
  · simp [begin]

/-- A closed handle with no call between its steps performs nothing more. -/
theorem performed_of_settled (closed : shared.engine.closed = true)
    (settled : ∀ request, .accepted request ∉ shared.calls) (schedule : List (Enumeration × Nat)) :
    performed schedule shared = [] := by
  induction schedule generalizing shared with
  | nil => rfl
  | cons choice rest ih =>
      have nothing : shared.performs? choice = none := by
        cases asked : shared.performs? choice with
        | none => rfl
        | some request =>
            exact absurd (List.mem_of_getElem? (performs?_eq_some_iff.mp asked)) (settled request)
      rw [performed, nothing]
      obtain ⟨left, moved, turned⟩ := shared.turned choice
      rw [moved]
      cases turned with
      | passed _ => exact ih closed settled
      | refused waiting _ => exact ih closed fun request => notMem_set (settled request) (by simp)
      | admitted _ opened _ => exact absurd opened (by simp [closed])
      | closing _ opened => exact absurd opened (by simp [closed])
      | done accepted _ => exact absurd (List.mem_of_getElem? accepted) (settled _)

theorem settled_of_turn (closing : shared.Closing choice.2)
    (alone : ∀ other request, shared.calls[other]? = some (.accepted request) → other = choice.2)
    (request : Request) : .accepted request ∉ (shared.turn choice).calls := by
  intro member
  obtain ⟨index, found⟩ := List.mem_iff_getElem?.mp member
  obtain ⟨left, moved, turned⟩ := shared.turned choice
  rw [moved] at found
  cases turned with
  | passed idle => exact idle _ closing.asked
  | admitted _ opened _ => simp [closing.closed] at opened
  | closing _ opened => simp [closing.closed] at opened
  | refused waiting _ => cases waiting.symm.trans closing.asked
  | done accepted _ =>
      rw [getElem?_set_of_some accepted] at found
      split at found
      · cases found
      · rename_i apart
        exact apart (alone index request found).symm

/-- **What closing saves of concurrent calls.** Any calls run on a newly opened handle, their
steps in any order, and the system does not fail. Once a call to close the handle has
succeeded, it has done so in one turn of the schedule. If the handle saves every change, the
snapshot is that of the memory from then on. Otherwise it remains that of the memory at
that turn, and it is that of the memory later exactly if the requests performed since have
left the memory as it was. They have if no other call was between its two steps. -/
theorem saved_by_closing_iff {location : String} {options : EngineOptions} {start disk : Disk}
    {engine : MemoryEngine}
    (opened : MemoryEngine.openAt location options start = (.ok engine, disk))
    (requests : List Request) (schedule : List (Enumeration × Nat))
    (fits : FitsAlong schedule (begin engine disk requests))
    (quiet : (run schedule (begin engine disk requests)).Quiet)
    (succeeded : .returned .close (.ok ()) ∈ (run schedule (begin engine disk requests)).calls) :
    let final := run schedule (begin engine disk requests)
    ∃ before choice after, schedule = before ++ choice :: after ∧
      let closing := run before (begin engine disk requests)
      let later :=
        (performed after (closing.turn choice)).foldl Request.applied closing.engine.store
      closing.calls[choice.2]? = some (.accepted .close) ∧
        final.engine.store = later ∧
        SnapshotFile.load options.path final.disk =
          .ok (if options.syncWrites then later else closing.engine.store) ∧
        (SnapshotFile.load options.path final.disk = .ok final.engine.store ↔
          options.syncWrites = true ∨ later = closing.engine.store) ∧
        ((∀ other request, closing.calls[other]? = some (.accepted request) → other = choice.2) →
          later = closing.engine.store) := by
  obtain ⟨path, mode, unclosed, held⟩ := MemoryEngine.eq_of_openAt opened
  intro final
  rcases (unclosed_begin unclosed disk requests).run schedule with
    still | ⟨winner, still⟩ | ⟨before, choice, after, split, closing⟩
  · exact absurd succeeded still.unanswered
  · exact absurd succeeded still.unanswered
  · let handle := run before (begin engine disk requests)
    have reached : final = run after (handle.turn choice) := by
      simp only [final, handle, split, run, List.foldl_append, List.foldl_cons]
    have later : final.engine.store =
        (performed after (handle.turn choice)).foldl Request.applied handle.engine.store := by
      rw [reached, store_run, closing.store_turn]
    have fitting : (handle.turn choice).engine.store.Fits := by
      rw [split] at fits
      exact fits.drop.2.now
    have settled : (run after (handle.turn choice)).Quiet := reached ▸ quiet
    have saved : SnapshotFile.load options.path final.disk =
        .ok (if options.syncWrites then final.engine.store else handle.engine.store) := by
      by_cases sync : options.syncWrites = true
      · have together : (begin engine disk requests).Together := fun _ => path ▸ held
        have place : final.engine.path = options.path := (run_same _ _).1.trans path
        have kind : final.engine.syncWrites = true := (run_same _ _).2.trans (mode.trans sync)
        rw [if_pos sync, ← place]
        exact together.run quiet fits kind
      · have place : handle.engine.path = options.path := (run_same _ _).1.trans path
        have kind : handle.engine.syncWrites = options.syncWrites := (run_same _ _).2.trans mode
        rw [if_neg sync, ← place, reached]
        exact load_of_closing closing (kind.trans (by simpa using sync)) settled fitting
    refine ⟨before, choice, after, split, closing.asked, later, later ▸ saved, ?_, ?_⟩
    · rw [saved, ← later]
      by_cases sync : options.syncWrites = true
      · simp [sync]
      · simp [sync, handle, eq_comm]
    · intro alone
      obtain ⟨closed, _⟩ := closing.turn_winner rfl settled.of_run fitting
      rw [performed_of_settled closed.closed (settled_of_turn closing alone)]
      rfl

/-- A put performed after closing has saved, and another one before. -/
theorem saved_by_closing_between_puts :
    let options : EngineOptions := ⟨"db", false, true⟩
    let engine : MemoryEngine := ⟨"db", false, Store.empty, false⟩
    let disk := (Disk.empty.makeDirectories (.ofText "db")).2
    let requests : List Request := [.put [1] [2], .close, .put [3] [4]]
    let schedule := [0, 0, 2, 1, 1, 2].map (Enumeration.byKey, ·)
    let start := begin engine disk requests
    (MemoryEngine.openAt "db" options Disk.empty = (.ok engine, disk) ∧
      FitsAlong schedule start ∧ (run schedule start).Quiet ∧
      .returned .close (.ok ()) ∈ (run schedule start).calls) ∧
    ∃ before choice after, schedule = before ++ choice :: after ∧
      (run before start).calls[choice.2]? = some (.accepted .close) ∧
      SnapshotFile.load "db" (run schedule start).disk = .ok (run before start).engine.store := by
  intro options engine disk requests schedule start
  have opened : MemoryEngine.openAt "db" options Disk.empty = (.ok engine, disk) := by
    decide +kernel
  have fits : FitsAlong schedule start := by decide +kernel
  have quiet : (run schedule start).Quiet := by decide +kernel
  have succeeded : .returned .close (.ok ()) ∈ (run schedule start).calls := by decide +kernel
  obtain ⟨before, choice, after, split, asked, _, saved, _⟩ :=
    saved_by_closing_iff opened requests schedule fits quiet succeeded
  exact ⟨⟨opened, fits, quiet, succeeded⟩, before, choice, after, split, asked, saved⟩

/-- An acknowledged put that closing does not save: it is accepted before the handle is
closed, and performed after the store was saved. -/
theorem acknowledged_put_not_saved_by_closing :
    let engine : MemoryEngine := ⟨"db", false, Store.empty, false⟩
    let disk := (Disk.empty.makeDirectories (.ofText "db")).2
    let schedule := [0, 1, 1, 0].map (Enumeration.byKey, ·)
    let final := run schedule (begin engine disk [.put [107] [118], .close])
    MemoryEngine.openAt "db" ⟨"db", false, true⟩ Disk.empty = (.ok engine, disk) ∧
      final.calls = [.returned (.put [107] [118]) (.ok ()), .returned .close (.ok ())] ∧
      final.engine.store = Store.empty.insert [107] [118] ∧
      SnapshotFile.load "db" final.disk = .ok Store.empty := by
  decide +kernel

end StoreTrial.SharedHandle
