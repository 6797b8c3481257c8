import StoreTrial.Entropy.Source
import StoreTrial.Proofs.LeaseEndings
import StoreTrial.Proofs.LocationPaths

/-! # Locations of leases

A fresh engine is opened at the location that was named for it, one name below the directory for
locations. The lease is of this location, and however a trial parts with it nothing else is removed
(`StoreTrial.Provisioner.locations_lie_apart`). If the settings are not accepted nothing is asked
and nothing is drawn, and if the clock shows a time before the epoch nothing more is.
-/

namespace StoreTrial

namespace Lease

variable {σ : Type} {answer : (question : Question) → σ → question.Reply × σ} {lease : Lease}

theorem eq_location_of_mem_clearing {closing : Outcome Unit} {cleared : Except DiskFault Unit}
    {text : String} {reply : Except DiskFault Unit}
    (member : (⟨.clear text, reply⟩ : Exchange) ∈ lease.clearing closing cleared) :
    text = lease.location := by
  have last (removed : (⟨.clear text, reply⟩ : Exchange) ∈
      lease.closeNotes closing ++ [⟨.clear lease.location, cleared⟩]) : text = lease.location := by
    rcases List.mem_append.mp removed with noted | cleared
    · rcases lease.closeNotes_eq_nil_or closing with none | ⟨message, one⟩
      · rw [none] at noted
        cases noted
      · rw [one] at noted
        cases List.mem_singleton.mp noted
    · cases List.mem_singleton.mp cleared
      rfl
  match closing with
  | .ok () | .error (.failed failure) => exact last member
  | .error (.panicked message) => cases member

/-- What is removed when a trial parts with a lease is the location of the lease. -/
theorem eq_location_of_mem_part (fresh : lease.released = false) {parting : Parting} {state : σ}
    {text : String} {reply : Except DiskFault Unit}
    (member : (⟨.clear text, reply⟩ : Exchange) ∈ (lease.part parting).deeds answer state) :
    text = lease.location := by
  obtain ⟨closing, cleared, after, parts⟩ := @does_part _ answer lease fresh parting state
  rw [parts.deeds] at member
  rcases List.mem_append.mp member with noted | given
  · cases parting with
    | abort message => cases List.mem_singleton.mp noted
    | teardown | drop | unwind message => cases noted
  · rcases List.mem_cons.mp given with closed | rest
    · cases closed
    · exact eq_location_of_mem_clearing rest

/-- A lease whose location is all that is removed when a trial parts with it, and nothing changes
then but what is under a name in a directory. -/
structure RemovesOnly (lease : Lease) (base name : String) : Prop where
  removes : ∀ {σ : Type} (answer : (question : Question) → σ → question.Reply × σ) (state : σ),
    ∃ cleared, lease.removeLocation.deeds answer state = [⟨.clear lease.location, cleared⟩]
  clears : ∀ {σ : Type} (answer : (question : Question) → σ → question.Reply × σ) (state : σ)
    (parting : Parting) (text : String) (reply : Except DiskFault Unit),
    (⟨.clear text, reply⟩ : Exchange) ∈ (lease.part parting).deeds answer state →
      text = lease.location
  inside : ∀ (world : World) (sought : Place),
    (lease.removeLocation.run World.answer world).2.disk.entryAt sought ≠
        world.disk.entryAt sought →
      ∃ root, world.disk.walk [] (Path.ofText base).pieces = .ok root ∧ name :: root <:+ sought

theorem removesOnly {base name : String} (fresh : lease.released = false)
    (below : Location.LiesBelow base name lease.location) : lease.RemovesOnly base name where
  removes := by
    intro σ answer state
    obtain ⟨cleared, _, does⟩ := lease.does_removeLocation answer state
    exact ⟨cleared, does.deeds⟩
  clears := fun _ _ _ _ _ member => eq_location_of_mem_part fresh member
  inside := by
    intro world sought changed
    rw [removeLocation_eq] at changed
    exact below.removal world.disk sought changed

end Lease

namespace Provisioner

open Location (name LiesBelow)

variable {σ ε : Type} [EntropySource ε]

/-- A location is named for a fresh engine, which is asked for there and nowhere else; it and the
lease of it are at this location. -/
structure SettlesOn (answer : (question : Question) → σ → question.Reply × σ)
    (provisioner : Provisioner ε) (before : σ) (location : String) : Prop where
  named : ((dialogue nameLocation provisioner).run answer before).1.1 = .ok location
  opens : ∃ opened : Except Failure Handle,
    (dialogue openFresh provisioner).deeds answer before =
      [⟨.openAt provisioner.opener location (optionsAt provisioner.settings location), opened⟩] ∧
    ((dialogue openFresh provisioner).run answer before).1.1 =
      .ofResult (opened.map fun handle => (location, handle)) ∧
    ∀ owner handle, opened = .ok handle →
      ((dialogue (lease owner) provisioner).run answer before).1.1 =
        .ok ⟨location, handle, owner, false⟩

variable {answer : (question : Question) → σ → question.Reply × σ} {provisioner : Provisioner ε}
  {before : σ}

omit [EntropySource ε] in
theorem does_settleOpening (location : String) (left : Provisioner ε)
    (opened : Except Failure Handle) (state : σ) :
    ∃ after, Dialogue.Does answer (settleOpening location left opened) state []
      (.ofResult (opened.map fun handle => (location, handle)), left) after := by
  cases opened with
  | error failure => exact ⟨state, rfl, rfl⟩
  | ok handle => exact ⟨_, rfl, rfl⟩

theorem settlesOn {nanos : Nat} {suffix : Filled Location.suffixSize} {source : ε}
    (valid : provisioner.settings.validate = .ok ())
    (timed : (answer .clock before).1 = (nanos : Int))
    (drawn : EntropySource.fill provisioner.source Location.suffixSize = (.ok suffix, source)) :
    provisioner.SettlesOn answer before (Location.path provisioner.settings nanos suffix) := by
  let location := Location.path provisioner.settings nanos suffix
  let asked := answer (.openAt provisioner.opener location
    (optionsAt provisioner.settings location)) (answer .clock before).2
  obtain ⟨after, settles⟩ := @does_settleOpening _ _ answer location
    { provisioner with source := source } asked.1 asked.2
  have opens : Dialogue.Does answer (dialogue openFresh provisioner) before
      [⟨.openAt provisioner.opener location (optionsAt provisioner.settings location), asked.1⟩]
      (.ofResult (asked.1.map fun handle => (location, handle)),
        { provisioner with source := source }) after := by
    rw [dialogue_openFresh, valid]
    apply Dialogue.Does.ask
    rw [timed, choice_of_drawn nanos drawn]
    exact .ask settles
  refine ⟨?_, asked.1, opens.deeds, by rw [opens.run], fun owner handle granted => ?_⟩
  · rw [dialogue_nameLocation]
    change Outcome.ofResult (provisioner.choice (answer .clock before).1).1 = _
    rw [timed, choice_of_drawn nanos drawn]
    rfl
  · rw [dialogue_lease_eq_bind, Script.run_bind, opens.run, granted]
    rfl

/-- **A fresh engine lies at a location of its own.** With settings that are accepted its location
is one name below their directory, made of their stem, the time and sixteen digits; the engine is
opened there and nowhere else, and what is removed with its lease was under that name. No two names
are equal that were made of different stems, times or suffixes. If the settings are not accepted, or
if the clock shows a time before the epoch, a fresh engine is refused before anything is drawn and
before any engine is opened. -/
theorem locations_lie_apart (answer : (question : Question) → σ → question.Reply × σ)
    (provisioner : Provisioner ε) (before : σ) :
    (provisioner.settings.validate = .ok () → ∀ (nanos : Nat) (suffix : Filled Location.suffixSize),
      let named := name provisioner.settings.stem nanos suffix
      let location := Location.path provisioner.settings nanos suffix
      LiesBelow provisioner.settings.tempRoot named location ∧
        (∃ digits : List Char, digits.length = 16 ∧ (∀ c ∈ digits, c ∈ Bytes.hexDigits) ∧
          named = provisioner.settings.stem ++ "-" ++ toString nanos ++ "-" ++
            String.ofList digits) ∧
        (∀ handle owner,
          Lease.RemovesOnly ⟨location, handle, owner, false⟩ provisioner.settings.tempRoot named) ∧
        ∀ source, (answer .clock before).1 = (nanos : Int) →
          EntropySource.fill provisioner.source Location.suffixSize = (.ok suffix, source) →
          provisioner.SettlesOn answer before location) ∧
    (∀ stem other nanos time suffix ending,
      name stem nanos suffix = name other time ending ↔
        stem = other ∧ nanos = time ∧ suffix = ending) ∧
    (∀ failure, provisioner.settings.validate = .error failure →
      dialogue openFresh provisioner = .done (.error (.failed failure), provisioner)) ∧
    (provisioner.settings.validate = .ok () → (answer .clock before).1 < (0 : Int) →
      Dialogue.Does answer (dialogue openFresh provisioner) before []
        (.error (.failed (.invalidOperation .clockBeforeEpoch)), provisioner)
        (answer .clock before).2) := by
  refine ⟨?_, ?_, ?_, ?_⟩
  · intro valid nanos suffix named location
    have below : LiesBelow provisioner.settings.tempRoot named location :=
      Location.liesBelow_path (Settings.separator_notMem_stem valid) nanos suffix
    exact ⟨below, Location.exists_name_eq _ nanos suffix,
      fun handle owner => Lease.removesOnly rfl below,
      fun source timed drawn => settlesOn valid timed drawn⟩
  · intro stem other nanos time suffix ending
    exact Location.name_inj
  · intro failure invalid
    rw [dialogue_openFresh, invalid]
  · intro valid early
    obtain ⟨distance, past⟩ := Int.eq_negSucc_of_lt_zero early
    rw [dialogue_openFresh, valid]
    apply Dialogue.Does.ask
    rw [past]
    exact .done _ _

/-- A directory that ends in a dot and a stem that ends in a number; a stem with a separator; and a
clock that shows a time before the epoch. -/
theorem locations_lie_apart_dotted :
    let settings : Settings := ⟨"tmp/.", "kv-1", 42, 2, false, "info"⟩
    let source : Source := .planned #[.pattern #[0, 15, 171, 255, 0, 0, 0, 1]] 0
    let provisioner : Provisioner Source := ⟨0, settings, source⟩
    let separated : Provisioner Source := ⟨0, { settings with stem := "k/v" }, source⟩
    let suffix : Filled Location.suffixSize := ⟨[0, 15, 171, 255, 0, 0, 0, 1], rfl⟩
    let failure : Failure := .invalidOperation (.prefixSeparator "k/v")
    let world := World.fresh "tmp" 5
    let early : (question : Question) → Unit → question.Reply × Unit
      | .clock, _ => (-1, ())
      | question, _ => ((World.answer question world).1, ())
    let location := "tmp/./kv-1-5-000fabff00000001"
    (provisioner.settings.validate = .ok () ∧ separated.settings.validate = .error failure) ∧
      LiesBelow "tmp/." "kv-1-5-000fabff00000001" location ∧
      Lease.RemovesOnly ⟨location, 0, ⟨.test, "t", 0⟩, false⟩ "tmp/." "kv-1-5-000fabff00000001" ∧
      provisioner.SettlesOn World.answer world location ∧
      name "kv-1" 5 suffix ≠ name "kv" 15 suffix ∧
      dialogue openFresh separated = .done (.error (.failed failure), separated) ∧
      ((dialogue openFresh provisioner).run early ()).1 =
        (.error (.failed (.invalidOperation .clockBeforeEpoch)), provisioner) := by
  intro settings source provisioner separated suffix failure world early location
  have valid : provisioner.settings.validate = .ok () := by decide +kernel
  have invalid : separated.settings.validate = .error failure := by decide +kernel
  have named : name "kv-1" 5 suffix = "kv-1-5-000fabff00000001" := by decide +kernel
  have located : Location.path settings 5 suffix = location := by decide +kernel
  have drawn : EntropySource.fill source Location.suffixSize =
      (.ok suffix, .planned #[.pattern #[0, 15, 171, 255, 0, 0, 0, 1]] 1) := by decide +kernel
  obtain ⟨lies, apart, -, -⟩ := locations_lie_apart World.answer provisioner world
  obtain ⟨below, -, removes, settles⟩ := lies valid 5 suffix
  have refused := (locations_lie_apart World.answer separated world).2.2.1 failure invalid
  have late := (locations_lie_apart early provisioner ()).2.2.2 valid (by decide)
  rw [named, located] at below
  have only := removes 0 ⟨.test, "t", 0⟩
  rw [named, located] at only
  have settled := settles _ rfl drawn
  rw [located] at settled
  refine ⟨⟨valid, invalid⟩, below, only, settled, fun same => ?_, refused, ?_⟩
  · exact absurd ((apart _ _ _ _ _ _).mp same).1 (by decide)
  · rw [late.run]

end Provisioner

end StoreTrial
