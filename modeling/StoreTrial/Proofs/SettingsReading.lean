import Mathlib.Order.WellFounded
import StoreTrial.Proofs.LocationNames
import StoreTrial.Proofs.Numerals

/-! # Settings read from variables

The seed, the workers, the choice and the beginning of the names are checked in this order, each by
itself. Settings are read exactly if every check passes, they are the ones that the variables carry,
and otherwise the first check that does not pass has its complaint
(`StoreTrial.Settings.ofVariables_eq_ok_iff_passes`).
-/

namespace StoreTrial.Settings

variable {surroundings : Surroundings} {lookup : String → Option String} {settings : Settings}
variable {text : String}

/-! ## What texts mean -/

/-- The text, trimmed and in lower case, is one of the words. -/
def IsWord (words : List String) (text : String) : Prop :=
  ∃ word ∈ words, (Text.trim text.toList).map Char.toLower = word.toList

/-- The text, trimmed, writes the number, which has at most 64 bits. -/
def MeansNumber (text : String) (number : Nat) : Prop :=
  Text.Writes (Text.trim text.toList) number ∧ number < UInt64.size

/-- The text asks for this number of workers, of which there is one at least. -/
def MeansWorkers (text : String) (workers : Nat) : Prop :=
  ∃ number, MeansNumber text number ∧ workers = max number 1

/-- The text is a word for the choice. -/
def MeansChoice (text : String) (choice : Bool) : Prop :=
  IsWord (if choice then ["1", "true", "yes", "on"] else ["0", "false", "no", "off"]) text

/-- The value is what the text means that a variable is set to, or the standard one if it is
unset. -/
def IsSetBy {α : Type} (setting : Option String) (standard : α) (means : String → α → Prop)
    (value : α) : Prop :=
  match setting with
  | none => value = standard
  | some text => means text value

/-- The settings are those that the variables ask for, with standard ones where they are unset. -/
structure Carries (surroundings : Surroundings) (lookup : String → Option String)
    (settings : Settings) : Prop where
  tempRoot : settings.tempRoot = (lookup tempRootVariable).getD surroundings.tempRoot
  stem : settings.stem = (lookup stemVariable).getD "kvprobe"
  seed : IsSetBy (lookup seedVariable) defaultSeed (fun text seed => MeansNumber text seed.toNat)
    settings.seed
  workers : IsSetBy (lookup workersVariable) surroundings.workers MeansWorkers settings.workers
  syncWrites : IsSetBy (lookup syncWritesVariable) false MeansChoice settings.syncWrites
  logLevel : settings.logLevel = (lookup logVariable).getD "info"

/-! ## What is checked -/

/-- A setting that is checked when it is read. -/
inductive Checked where
  | seed
  | workers
  | syncWrites
  | stem
  deriving DecidableEq

namespace Checked

/-- The place of a check in their order. -/
def rank : Checked → Nat
  | .seed => 0
  | .workers => 1
  | .syncWrites => 2
  | .stem => 3

/-- The variable that is checked. -/
def variableName : Checked → String
  | .seed => seedVariable
  | .workers => workersVariable
  | .syncWrites => syncWritesVariable
  | .stem => stemVariable

/-- The text that is checked: names need a beginning also when no variable asks for one. -/
def text? (lookup : String → Option String) : Checked → Option String
  | .stem => some ((lookup stemVariable).getD "kvprobe")
  | checked => lookup checked.variableName

/-- The texts that pass a check. -/
def Accepts : Checked → String → Prop
  | .seed, text | .workers, text => ∃ number, MeansNumber text number
  | .syncWrites, text => IsWord ["1", "true", "yes", "on", "0", "false", "no", "off"] text
  | .stem, text => text ≠ "" ∧ '/' ∉ text.toList

/-- What is reported of a text that does not pass a check. -/
def complaint (checked : Checked) (text : String) : Failure :=
  .invalidOperation <|
    match checked with
    | .seed | .workers =>
        .badNumber checked.variableName text
          (Text.numeralFault Text.maxWord (Text.trim text.toList))
    | .syncWrites => .badBoolean checked.variableName text
    | .stem => if text = "" then .prefixEmpty else .prefixSeparator text

end Checked

/-- The text that is checked passes, if there is one. -/
def Passes (lookup : String → Option String) (checked : Checked) : Prop :=
  ∀ text, checked.text? lookup = some text → checked.Accepts text

/-- The text does not pass the check, and all checks before it pass. -/
structure FirstRejected (lookup : String → Option String) (checked : Checked) (text : String) :
    Prop where
  given : checked.text? lookup = some text
  rejected : ¬checked.Accepts text
  earlier : ∀ other : Checked, other.rank < checked.rank → Passes lookup other

theorem forall_passes_or_firstRejected (lookup : String → Option String) :
    (∀ checked, Passes lookup checked) ∨ ∃ checked text, FirstRejected lookup checked text := by
  by_cases failing : ∃ checked, ¬Passes lookup checked
  · obtain ⟨checked, fails, least⟩ :=
      (measure Checked.rank).wf.has_min {checked | ¬Passes lookup checked} failing
    simp only [Set.mem_ofPred_eq, Passes, not_forall] at fails
    obtain ⟨text, given, rejected⟩ := fails
    refine .inr ⟨checked, text, given, rejected, fun other before => ?_⟩
    exact not_not.mp fun fails => least other fails before
  · exact .inl (not_exists_not.mp failing)

/-! ## Readings of one variable -/

/-- The reading gives what a text means, and a complaint about a text that means nothing. -/
structure Reads {α : Type} (read : String → Except Failure α) (means : String → α → Prop)
    (complaint : String → Failure) : Prop where
  accepted : ∀ {text value}, means text value → read text = .ok value
  refused : ∀ {text}, (¬∃ value, means text value) → read text = .error (complaint text)

theorem lt_size_iff {number : Nat} : number < UInt64.size ↔ number ≤ Text.maxWord := by
  rw [Text.maxWord, UInt64.size]
  omega

theorem reads_readWord (variableName : String) :
    Reads (readWord variableName) MeansNumber fun text =>
      .invalidOperation (.badNumber variableName text
        (Text.numeralFault Text.maxWord (Text.trim text.toList))) where
  accepted := by
    rintro text number ⟨writes, within⟩
    rw [readWord, Text.readNumber_eq_ok_iff.mpr ⟨writes, lt_size_iff.mp within⟩]
  refused := by
    intro text meaningless
    have past : ∀ number, Text.Writes (Text.trim text.toList) number → Text.maxWord < number :=
      fun number writes => Nat.not_le.mp fun within =>
        meaningless ⟨number, writes, lt_size_iff.mpr within⟩
    rw [readWord, Text.readNumber_eq_error_iff.mpr ⟨past, rfl⟩]

theorem Reads.map {α β : Type} {read : String → Except Failure α} {means : String → α → Prop}
    {complaint : String → Failure} (reads : Reads read means complaint) (f : α → β) :
    Reads (fun text => (read text).map f) (fun text value => ∃ raw, means text raw ∧ value = f raw)
      complaint where
  accepted := by
    rintro text _ ⟨raw, meant, rfl⟩
    simp only [reads.accepted meant, Except.map]
  refused := by
    intro text meaningless
    have none : ¬∃ raw, means text raw := fun ⟨raw, meant⟩ => meaningless ⟨f raw, raw, meant, rfl⟩
    simp only [reads.refused none, Except.map]

theorem isWord_iff_any {words : List String} :
    IsWord words text ↔
      (words.any fun word => word.toList == (Text.trim text.toList).map Char.toLower) = true := by
  simp only [IsWord, List.any_eq_true, beq_iff_eq, @eq_comm _ (List.map _ _)]

theorem isWord_append_iff (first second : List String) :
    IsWord (first ++ second) text ↔ IsWord first text ∨ IsWord second text := by
  simp only [isWord_iff_any, List.any_append, Bool.or_eq_true]

/-- No text is both a word for yes and a word for no. -/
theorem not_isWord_yes_and_no : ¬(IsWord yesWords text ∧ IsWord noWords text) := by
  rintro ⟨⟨yes, amongYes, read⟩, no, amongNo, other⟩
  have apart : ∀ yes ∈ yesWords, ∀ no ∈ noWords, yes.toList ≠ no.toList := by decide +kernel
  exact apart yes amongYes no amongNo (read.symm.trans other)

theorem reads_readChoice (variableName : String) :
    Reads (readChoice variableName) MeansChoice fun text =>
      .invalidOperation (.badBoolean variableName text) where
  accepted := by
    intro text choice meant
    rw [readChoice]
    cases choice with
    | true =>
        have yes : IsWord yesWords text := meant
        rw [if_pos (isWord_iff_any.mp yes)]
    | false =>
        have no : IsWord noWords text := meant
        have unmeant : ¬IsWord yesWords text := fun yes => not_isWord_yes_and_no ⟨yes, no⟩
        rw [if_neg (isWord_iff_any.not.mp unmeant), if_pos (isWord_iff_any.mp no)]
  refused := by
    intro text meaningless
    have yes : ¬IsWord yesWords text := fun meant => meaningless ⟨true, meant⟩
    have no : ¬IsWord noWords text := fun meant => meaningless ⟨false, meant⟩
    rw [readChoice, if_neg (isWord_iff_any.not.mp yes), if_neg (isWord_iff_any.not.mp no)]

section Reads

variable {α : Type} {read : String → String → Except Failure α} {means : String → α → Prop}
variable {complaint : String → Failure} {variableName : String} {standard value : α}

theorem Reads.readOr_eq_ok (reads : Reads (read variableName) means complaint)
    (carried : IsSetBy (lookup variableName) standard means value) :
    readOr lookup variableName standard read = .ok value := by
  rw [readOr]
  cases given : lookup variableName with
  | none =>
      rw [given] at carried
      exact congrArg _ carried.symm
  | some text =>
      rw [given] at carried
      exact reads.accepted carried

theorem exists_isSetBy {setting : Option String}
    (meant : ∀ text, setting = some text → ∃ value, means text value) (standard : α) :
    ∃ value, IsSetBy setting standard means value := by
  cases setting with
  | none => exact ⟨standard, rfl⟩
  | some text => exact meant text rfl

theorem Reads.readOr_eq_error (reads : Reads (read variableName) means complaint)
    (given : lookup variableName = some text) (meaningless : ¬∃ value, means text value) :
    readOr lookup variableName standard read = .error (complaint text) := by
  rw [readOr, given]
  exact reads.refused meaningless

end Reads

/-! ## The checks in turn -/

/-- The seed that is asked for. -/
def readSeed (lookup : String → Option String) : Except Failure Nat :=
  readOr lookup seedVariable defaultSeed.toNat readWord

/-- The workers that are asked for. -/
def readWorkers (surroundings : Surroundings) (lookup : String → Option String) :
    Except Failure Nat :=
  readOr lookup workersVariable surroundings.workers fun variableName text =>
    (readWord variableName text).map (max · 1)

/-- The choice that is asked for. -/
def readSyncWrites (lookup : String → Option String) : Except Failure Bool :=
  readOr lookup syncWritesVariable false readChoice

/-- The settings with what was read, and with the texts as they are. -/
def gathered (surroundings : Surroundings) (lookup : String → Option String) (seed : UInt64)
    (workers : Nat) (syncWrites : Bool) : Settings where
  tempRoot := (lookup tempRootVariable).getD surroundings.tempRoot
  stem := (lookup stemVariable).getD "kvprobe"
  seed := seed
  workers := workers
  syncWrites := syncWrites
  logLevel := (lookup logVariable).getD "info"

theorem ofVariables_eq (surroundings : Surroundings) (lookup : String → Option String) :
    ofVariables surroundings lookup = do
      let seed ← readSeed lookup
      let workers ← readWorkers surroundings lookup
      let syncWrites ← readSyncWrites lookup
      let settings := gathered surroundings lookup seed.toUInt64 workers syncWrites
      settings.validate
      return settings :=
  rfl

/-- A word for either choice is a word for one of them. -/
theorem exists_meansChoice_iff :
    (∃ choice, MeansChoice text choice) ↔ Checked.syncWrites.Accepts text := by
  have joined : Checked.syncWrites.Accepts text ↔ IsWord yesWords text ∨ IsWord noWords text :=
    isWord_append_iff yesWords noWords
  rw [joined, Bool.exists_bool, or_comm]
  rfl

theorem readSeed_of_isSetBy {seed : UInt64}
    (carried : IsSetBy (lookup seedVariable) defaultSeed
      (fun text seed => MeansNumber text seed.toNat) seed) :
    readSeed lookup = .ok seed.toNat := by
  refine (reads_readWord seedVariable).readOr_eq_ok ?_
  cases given : lookup seedVariable with
  | none =>
      rw [given] at carried
      exact congrArg UInt64.toNat carried
  | some text =>
      rw [given] at carried
      exact carried

theorem readWorkers_of_isSetBy {workers : Nat}
    (carried : IsSetBy (lookup workersVariable) surroundings.workers MeansWorkers workers) :
    readWorkers surroundings lookup = .ok workers :=
  ((reads_readWord workersVariable).map (max · 1)).readOr_eq_ok carried

theorem readSyncWrites_of_isSetBy {syncWrites : Bool}
    (carried : IsSetBy (lookup syncWritesVariable) false MeansChoice syncWrites) :
    readSyncWrites lookup = .ok syncWrites :=
  (reads_readChoice syncWritesVariable).readOr_eq_ok carried

theorem exists_isSetBy_seed (passes : Passes lookup .seed) :
    ∃ seed : UInt64, IsSetBy (lookup seedVariable) defaultSeed
      (fun text seed => MeansNumber text seed.toNat) seed := by
  refine exists_isSetBy (fun text given => ?_) defaultSeed
  obtain ⟨number, meant⟩ := passes text given
  have small : number.toUInt64.toNat = number := UInt64.toNat_ofNat_of_lt' meant.2
  exact ⟨number.toUInt64, small.symm ▸ meant⟩

theorem exists_isSetBy_workers (passes : Passes lookup .workers) (standard : Nat) :
    ∃ workers, IsSetBy (lookup workersVariable) standard MeansWorkers workers := by
  refine exists_isSetBy (fun text given => ?_) standard
  obtain ⟨number, meant⟩ := passes text given
  exact ⟨max number 1, number, meant, rfl⟩

theorem exists_isSetBy_syncWrites (passes : Passes lookup .syncWrites) :
    ∃ syncWrites, IsSetBy (lookup syncWritesVariable) false MeansChoice syncWrites :=
  exists_isSetBy (fun text given => exists_meansChoice_iff.mpr (passes text given)) false

theorem validate_eq_error (rejected : ¬Checked.stem.Accepts settings.stem) :
    settings.validate = .error (Checked.stem.complaint settings.stem) := by
  rw [validate]
  split
  · rename_i empty
    rw [Checked.complaint, if_pos (by simpa using empty)]
  · rename_i filled
    have filled : settings.stem ≠ "" := by simpa using filled
    have parted : '/' ∈ settings.stem.toList := not_not.mp fun whole => rejected ⟨filled, whole⟩
    rw [if_pos (by simpa using parted), Checked.complaint, if_neg filled]

/-- Settings that the variables carry are read if their names have a beginning that passes. -/
theorem Carries.ofVariables (carries : Carries surroundings lookup settings)
    (passes : Passes lookup .stem) : ofVariables surroundings lookup = .ok settings := by
  have same : gathered surroundings lookup settings.seed settings.workers settings.syncWrites =
      settings := by
    rw [gathered, ← carries.tempRoot, ← carries.stem, ← carries.logLevel]
  have valid : settings.validate = .ok () :=
    validate_eq_ok_iff.mpr (passes _ (congrArg some carries.stem.symm))
  rw [ofVariables_eq, readSeed_of_isSetBy carries.seed, readWorkers_of_isSetBy carries.workers,
    readSyncWrites_of_isSetBy carries.syncWrites]
  simp only [bind, Except.bind, Nat.toUInt64_eq, UInt64.ofNat_toNat, same, valid]
  rfl

theorem exists_carries (surroundings : Surroundings) (passes : ∀ checked, Passes lookup checked) :
    ∃ settings, Carries surroundings lookup settings := by
  obtain ⟨seed, seedSet⟩ := exists_isSetBy_seed (passes .seed)
  obtain ⟨workers, workersSet⟩ := exists_isSetBy_workers (passes .workers) surroundings.workers
  obtain ⟨syncWrites, choiceSet⟩ := exists_isSetBy_syncWrites (passes .syncWrites)
  exact ⟨gathered surroundings lookup seed workers syncWrites,
    rfl, rfl, seedSet, workersSet, choiceSet, rfl⟩

/-- The first check that does not pass ends the reading with its complaint. -/
theorem FirstRejected.ofVariables {checked : Checked} (first : FirstRejected lookup checked text) :
    ofVariables surroundings lookup = .error (checked.complaint text) := by
  obtain ⟨given, rejected, earlier⟩ := first
  have seed (passes : Passes lookup .seed) : ∃ seed, readSeed lookup = .ok seed := by
    obtain ⟨seed, seedSet⟩ := exists_isSetBy_seed passes
    exact ⟨seed.toNat, readSeed_of_isSetBy seedSet⟩
  have workers (passes : Passes lookup .workers) :
      ∃ workers, readWorkers surroundings lookup = .ok workers := by
    obtain ⟨workers, workersSet⟩ := exists_isSetBy_workers passes surroundings.workers
    exact ⟨workers, readWorkers_of_isSetBy workersSet⟩
  have syncWrites (passes : Passes lookup .syncWrites) :
      ∃ syncWrites, readSyncWrites lookup = .ok syncWrites := by
    obtain ⟨syncWrites, choiceSet⟩ := exists_isSetBy_syncWrites passes
    exact ⟨syncWrites, readSyncWrites_of_isSetBy choiceSet⟩
  rw [ofVariables_eq]
  cases checked with
  | seed =>
      have refused : readSeed lookup = .error (Checked.seed.complaint text) :=
        (reads_readWord seedVariable).readOr_eq_error given rejected
      rw [refused]
      rfl
  | workers =>
      obtain ⟨number, read⟩ := seed (earlier .seed (by decide))
      have meaningless : ¬∃ workers, MeansWorkers text workers :=
        fun ⟨_, number, meant, _⟩ => rejected ⟨number, meant⟩
      have refused : readWorkers surroundings lookup = .error (Checked.workers.complaint text) :=
        ((reads_readWord workersVariable).map (max · 1)).readOr_eq_error given meaningless
      rw [read, refused]
      rfl
  | syncWrites =>
      obtain ⟨number, read⟩ := seed (earlier .seed (by decide))
      obtain ⟨count, counted⟩ := workers (earlier .workers (by decide))
      have refused : readSyncWrites lookup = .error (Checked.syncWrites.complaint text) :=
        (reads_readChoice syncWritesVariable).readOr_eq_error given
          (exists_meansChoice_iff.not.mpr rejected)
      rw [read, counted, refused]
      rfl
  | stem =>
      obtain ⟨number, read⟩ := seed (earlier .seed (by decide))
      obtain ⟨count, counted⟩ := workers (earlier .workers (by decide))
      obtain ⟨choice, chosen⟩ := syncWrites (earlier .syncWrites (by decide))
      obtain rfl : (lookup stemVariable).getD "kvprobe" = text := Option.some.inj given
      let settings := gathered surroundings lookup number.toUInt64 count choice
      have refused : settings.validate = .error (Checked.stem.complaint settings.stem) :=
        validate_eq_error rejected
      rw [read, counted, chosen]
      simp only [bind, Except.bind]
      rw [refused]
      rfl

/-- A check asks only for its own variable. -/
theorem FirstRejected.congr {checked : Checked} (first : FirstRejected lookup checked text)
    {others : String → Option String}
    (agree : ∀ other : Checked, other.rank ≤ checked.rank →
      others other.variableName = lookup other.variableName) :
    FirstRejected others checked text := by
  have same {other : Checked} (early : other.rank ≤ checked.rank) :
      other.text? others = other.text? lookup := by
    have agreed := agree other early
    cases other with
    | stem => exact congrArg (fun setting : Option String => some (setting.getD "kvprobe")) agreed
    | seed | workers | syncWrites => exact agreed
  refine ⟨(same (Nat.le_refl _)).trans first.given, first.rejected, ?_⟩
  intro other before text given
  exact first.earlier other before text ((same (Nat.le_of_lt before)).symm.trans given)

/-- **Settings are read exactly if every check passes.** They are then the only ones that the
variables carry, they are valid, and workers that are asked for are one at least. Otherwise the
reading fails with the complaint of the first check that does not pass, and nothing but the
variables that are checked up to there has a part in it. -/
theorem ofVariables_eq_ok_iff_passes (surroundings : Surroundings)
    (lookup : String → Option String) :
    ((∃ settings, ofVariables surroundings lookup = .ok settings) ↔
      ∀ checked, Passes lookup checked) ∧
    (∀ settings, ofVariables surroundings lookup = .ok settings ↔
      (∀ checked, Passes lookup checked) ∧ Carries surroundings lookup settings) ∧
    (∀ settings, ofVariables surroundings lookup = .ok settings → settings.validate = .ok () ∧
      ((lookup workersVariable).isSome → 1 ≤ settings.workers)) ∧
    (∀ failure, ofVariables surroundings lookup = .error failure ↔
      ∃ checked text, FirstRejected lookup checked text ∧ failure = checked.complaint text) ∧
    ∀ checked text, FirstRejected lookup checked text →
      ∀ (elsewhere : Surroundings) (others : String → Option String),
        (∀ other : Checked, other.rank ≤ checked.rank →
          others other.variableName = lookup other.variableName) →
        ofVariables elsewhere others = .error (checked.complaint text) := by
  have passing (settings : Settings) (read : ofVariables surroundings lookup = .ok settings) :
      (∀ checked, Passes lookup checked) ∧ Carries surroundings lookup settings := by
    rcases forall_passes_or_firstRejected lookup with passes | ⟨checked, text, first⟩
    · obtain ⟨carried, carries⟩ := exists_carries surroundings passes
      cases (carries.ofVariables (passes .stem)).symm.trans read
      exact ⟨passes, carries⟩
    · cases first.ofVariables.symm.trans read
  refine ⟨⟨fun ⟨settings, read⟩ => (passing settings read).1, fun passes => ?_⟩,
    fun settings => ⟨passing settings, fun ⟨passes, carries⟩ => ?_⟩,
    fun settings read => ⟨?_, fun asked => ?_⟩, fun failure => ⟨fun failed => ?_, ?_⟩, ?_⟩
  · obtain ⟨settings, carries⟩ := exists_carries surroundings passes
    exact ⟨settings, carries.ofVariables (passes .stem)⟩
  · exact carries.ofVariables (passes .stem)
  · obtain ⟨passes, carries⟩ := passing settings read
    exact validate_eq_ok_iff.mpr (passes .stem _ (congrArg some carries.stem.symm))
  · obtain ⟨text, given⟩ := Option.isSome_iff_exists.mp asked
    have carried := (passing settings read).2.workers
    rw [given] at carried
    obtain ⟨number, _, least⟩ := carried
    rw [least]
    exact Nat.le_max_right number 1
  · rcases forall_passes_or_firstRejected lookup with passes | ⟨checked, text, first⟩
    · obtain ⟨settings, carries⟩ := exists_carries surroundings passes
      cases (carries.ofVariables (passes .stem)).symm.trans failed
    · exact ⟨checked, text, first, Except.error.inj (failed.symm.trans first.ofVariables)⟩
  · rintro ⟨checked, text, first, rfl⟩
    exact first.ofVariables
  · intro checked text first elsewhere others agree
    exact (first.congr agree).ofVariables

/-- The largest seed with zeros in front and no workers at all are read; of a seed that is one too
large, a sign that no number has and a word for neither choice the seed is complained of. -/
theorem ofVariables_eq_ok_iff_passes_edge :
    let surroundings : Surroundings := { tempRoot := "/tmp", workers := 4 }
    let accepted (variableName : String) : Option String :=
      if variableName = seedVariable then some " +0018446744073709551615\u3000"
      else if variableName = workersVariable then some "0"
      else if variableName = syncWritesVariable then some "\tOFF" else none
    let rejected (variableName : String) : Option String :=
      if variableName = seedVariable then some "18446744073709551616"
      else if variableName = workersVariable then some "-1"
      else if variableName = syncWritesVariable then some "2" else none
    let settings : Settings :=
      { tempRoot := "/tmp", stem := "kvprobe", seed := 18446744073709551615, workers := 1,
        syncWrites := false, logLevel := "info" }
    ((∀ checked, Passes accepted checked) ∧ Carries surroundings accepted settings) ∧
      FirstRejected rejected .seed "18446744073709551616" ∧
      ofVariables surroundings rejected = .error (.invalidOperation
        (.badNumber "KVPROBE_SEED" "18446744073709551616" .tooLarge)) := by
  intro surroundings accepted rejected settings
  have read : ofVariables surroundings accepted = .ok settings := by decide +kernel
  have large : FirstRejected rejected .seed "18446744073709551616" := by
    refine ⟨rfl, ?_, fun other before => absurd before (Nat.not_lt_zero _)⟩
    rintro ⟨number, ⟨_, _, rfl⟩, within⟩
    exact absurd within (by decide +kernel)
  exact ⟨((ofVariables_eq_ok_iff_passes surroundings accepted).2.1 settings).mp read, large,
    (ofVariables_eq_ok_iff_passes surroundings rejected).2.2.2.2 _ _ large _ _ fun _ _ => rfl⟩

end StoreTrial.Settings
