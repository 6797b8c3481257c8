import StoreTrial.Entropy.Source
import StoreTrial.Proofs.PayloadFills

/-! # Reports of fallbacks

What a generator reports while it is asked for one thing after another. Every request draws portions
of letters, and a portion falls back when it is not strict and its fill failed. For each of these
failures there is one report, in order, and nothing else is reported (`StoreTrial.Draw.Reports`).
Only the first failure in the life of a generator is worth a warning
(`StoreTrial.Ask.warned_once`).
-/

namespace StoreTrial

/-- The letters that a request draws at once: how many, and whether it would rather fail than take
them from the seed. -/
structure Portion where
  length : Nat
  strict : Bool := false
  deriving DecidableEq

namespace Portion

variable {ε : Type} [EntropySource ε]

/-- The source after portions. One without letters takes no fill. -/
def sourceAfter : List Portion → ε → ε
  | [], source => source
  | portion :: portions, source =>
      if portion.length = 0 then sourceAfter portions source
      else sourceAfter portions (EntropySource.fill source portion.length).2

/-- The failures that portions fall back on, in order: those of the fills for portions that are not
strict. -/
def fallbacks : List Portion → ε → List Failure
  | [], _ => []
  | portion :: portions, source =>
      if portion.length = 0 then fallbacks portions source
      else
        match EntropySource.fill source portion.length with
        | (.ok _, next) => fallbacks portions next
        | (.error failure, next) =>
            if portion.strict then fallbacks portions next
            else failure :: fallbacks portions next

theorem sourceAfter_append (first second : List Portion) (source : ε) :
    sourceAfter (first ++ second) source = sourceAfter second (sourceAfter first source) := by
  induction first generalizing source with
  | nil => rfl
  | cons portion portions ih =>
      rw [List.cons_append, sourceAfter, sourceAfter]
      split
      · exact ih _
      · exact ih _

theorem fallbacks_append (first second : List Portion) (source : ε) :
    fallbacks (first ++ second) source =
      fallbacks first source ++ fallbacks second (sourceAfter first source) := by
  induction first generalizing source with
  | nil => rfl
  | cons portion portions ih =>
      rw [List.cons_append, fallbacks, fallbacks, sourceAfter]
      by_cases empty : portion.length = 0
      · simp only [if_pos empty, ih]
      · simp only [if_neg empty]
        obtain ⟨outcome, next⟩ := EntropySource.fill source portion.length
        cases outcome with
        | ok bytes => exact ih next
        | error failure =>
            by_cases strict : portion.strict = true
            · simp only [if_pos strict, ih]
            · simp only [if_neg strict, ih, List.cons_append]

theorem fallbacks_strict (length : Nat) (source : ε) :
    fallbacks [⟨length, true⟩] source = [] := by
  rw [fallbacks]
  split
  · rfl
  · split
    · rfl
    · rfl

end Portion

namespace Event

/-- The reports of failures that a generator with a seed falls back on: a warning of the first one,
unless one was reported before, and a remark for each other one. -/
def ofFallbacks (seed : UInt64) : (reported : Bool) → List Failure → List Event
  | false, first :: later => .fallbackBegun seed first :: later.map fun _ => .fallbackRepeated seed
  | _, failures => failures.map fun _ => .fallbackRepeated seed

theorem ofFallbacks_nil (seed : UInt64) (reported : Bool) : ofFallbacks seed reported [] = [] := by
  cases reported with
  | false => rfl
  | true => rfl

/-- The report of a single failure is the one that a generator makes when it falls back. -/
theorem ofFallbacks_singleton (seed : UInt64) (reported : Bool) (failure : Failure) :
    ofFallbacks seed reported [failure] =
      [if reported then .fallbackRepeated seed else .fallbackBegun seed failure] := by
  cases reported with
  | false => rfl
  | true => rfl

theorem ofFallbacks_append (seed : UInt64) (reported : Bool) (first second : List Failure) :
    ofFallbacks seed reported (first ++ second) =
      ofFallbacks seed reported first ++
        ofFallbacks seed (reported || !first.isEmpty) second := by
  cases reported with
  | true => exact List.map_append
  | false =>
      cases first with
      | nil => rfl
      | cons failure failures => exact congrArg (_ :: ·) List.map_append

end Event

namespace Generator

variable {ε : Type} [EntropySource ε]

/-- A generator after portions: one that fell back is known to be reported. -/
def after (generator : Generator ε) (portions : List Portion) : Generator ε where
  source := Portion.sourceAfter portions generator.source
  seed := generator.seed
  reported := generator.reported || !(Portion.fallbacks portions generator.source).isEmpty

theorem after_append (generator : Generator ε) (first second : List Portion) :
    generator.after (first ++ second) = (generator.after first).after second := by
  simp only [after, Portion.sourceAfter_append, Portion.fallbacks_append]
  cases Portion.fallbacks first generator.source with
  | nil => rw [List.nil_append, List.isEmpty_nil, Bool.not_true, Bool.or_false]
  | cons failure failures => simp only [List.cons_append, List.isEmpty_cons, Bool.not_false,
      Bool.or_true, Bool.true_or]

end Generator

namespace Draw

variable {ε α β : Type} [EntropySource ε] {portions more : List Portion}

/-- A computation draws these portions and reports the failures that they fall back on. -/
structure Reports (draw : Draw ε α) (portions : List Portion) : Prop where
  events : ∀ generator, (draw generator).events =
    Event.ofFallbacks generator.seed generator.reported
      (Portion.fallbacks portions generator.source)
  generator : ∀ generator, (draw generator).generator = generator.after portions

namespace Reports

variable {draw : Draw ε α}

theorem pure (value : α) : Reports (Pure.pure value : Draw ε α) [] where
  events _ := (Event.ofFallbacks_nil _ _).symm
  generator generator := by
    simp only [Generator.after, Portion.fallbacks, List.isEmpty_nil, Bool.not_true, Bool.or_false]
    rfl

theorem bind {next : α → Draw ε β} (first : Reports draw portions)
    (second : ∀ value, Reports (next value) more) : Reports (draw >>= next) (portions ++ more) where
  events generator := by
    change (draw generator).events ++
      (next (draw generator).value (draw generator).generator).events = _
    rw [(second _).events, first.events, first.generator, Portion.fallbacks_append,
      Event.ofFallbacks_append]
    rfl
  generator generator := by
    change (next (draw generator).value (draw generator).generator).generator = _
    rw [(second _).generator, first.generator, Generator.after_append]

theorem map (reports : Reports draw portions) (f : α → β) : Reports (f <$> draw) portions :=
  ⟨reports.events, reports.generator⟩

theorem replicate (reports : Reports draw portions) (count : Nat) :
    Reports (Draw.replicate draw count) (List.replicate count portions).flatten := by
  induction count with
  | zero => exact .pure []
  | succ count ih =>
      rw [List.replicate_succ, List.flatten_cons]
      exact reports.bind fun first => ih.map (first :: ·)

end Reports

end Draw

/-! ## Single payloads -/

namespace Generator

variable {ε : Type} [EntropySource ε]

section Spelled

variable (alphabet : Alphabet) (length : Nat) (generator : Generator ε)

theorem events_spelled : (spelled alphabet length generator).events = [] := by
  rw [spelled]
  split
  · rfl
  · rfl

theorem generator_spelled (strict : Bool) :
    (spelled alphabet length generator).generator =
      { generator with source := Portion.sourceAfter [⟨length, strict⟩] generator.source } := by
  rw [spelled, Portion.sourceAfter]
  split
  · rfl
  · rfl

/-- A portion that is not strict falls back exactly if a strict one would fail. -/
theorem fallbacks_eq_of_spelled :
    Portion.fallbacks [⟨length, false⟩] generator.source =
      match (spelled alphabet length generator).value with
      | .ok _ => []
      | .error failure => [failure] := by
  rw [spelled, Portion.fallbacks]
  by_cases empty : length = 0
  · simp only [if_pos empty, Portion.fallbacks]
  · simp only [if_neg empty]
    obtain ⟨outcome, next⟩ := EntropySource.fill generator.source length
    cases outcome with
    | ok bytes => rfl
    | error failure => rfl

end Spelled

/-- A strict request reports nothing, whether its fill fails or not. -/
theorem reports_spelled (alphabet : Alphabet) (length : Nat) :
    Draw.Reports (spelled alphabet length : Draw ε _) [⟨length, true⟩] where
  events generator := by
    rw [events_spelled, Portion.fallbacks_strict, Event.ofFallbacks_nil]
  generator generator := by
    rw [generator_spelled alphabet length generator true, after, Portion.fallbacks_strict,
      List.isEmpty_nil, Bool.not_true, Bool.or_false]

/-- A request that falls back reports the failure of its fill. -/
theorem reports_orFallback (fallback : UInt64 → Bytes) (alphabet : Alphabet) (length : Nat) :
    Draw.Reports (orFallback fallback (spelled alphabet length) : Draw ε _) [⟨length, false⟩] := by
  have drawn (generator : Generator ε) :
      (orFallback fallback (spelled alphabet length) generator).events =
          Event.ofFallbacks generator.seed generator.reported
            (Portion.fallbacks [⟨length, false⟩] generator.source) ∧
        (orFallback fallback (spelled alphabet length) generator).generator =
          generator.after [⟨length, false⟩] := by
    have quiet := events_spelled alphabet length generator
    have source := generator_spelled alphabet length generator false
    have failures := fallbacks_eq_of_spelled alphabet length generator
    rw [after, failures]
    cases result : (spelled alphabet length generator).value with
    | ok payload =>
        rw [orFallback_of_ok result, quiet, source, Event.ofFallbacks_nil]
        exact ⟨rfl, by simp⟩
    | error failure =>
        rw [orFallback_of_error result, quiet, source, Event.ofFallbacks_singleton]
        exact ⟨rfl, by simp⟩
  exact ⟨fun generator => (drawn generator).1, fun generator => (drawn generator).2⟩

theorem reports_key (length : Nat) : Draw.Reports (key length : Draw ε _) [⟨length, false⟩] :=
  reports_orFallback _ .key length

theorem reports_value (length : Nat) : Draw.Reports (value length : Draw ε _) [⟨length, false⟩] :=
  reports_orFallback _ .value length

/-! ## Several payloads at once -/

/-- Changing keys until they are free is not reported. -/
theorem reports_uniqueKeys (count length : Nat) :
    Draw.Reports (uniqueKeys count length : Draw ε _) (List.replicate count ⟨length, false⟩) := by
  rw [uniqueKeys, freeKeys_eq_map, ← List.flatten_replicate_singleton]
  exact ((reports_key length).replicate count).map _

theorem reports_pair :
    Draw.Reports (pair : Draw ε _) [⟨pairKeyLength, false⟩, ⟨pairValueLength, false⟩] :=
  (reports_key pairKeyLength).bind fun key => (reports_value pairValueLength).bind fun value =>
    .pure (key, value)

theorem reports_pairs (count : Nat) :
    Draw.Reports (pairs count : Draw ε _)
      (List.replicate count [⟨pairKeyLength, false⟩, ⟨pairValueLength, false⟩]).flatten := by
  rw [pairs, addPairs_eq_map]
  exact (reports_pair.replicate count).map _

end Generator

/-! ## Requests in turn -/

namespace Ask

/-- The portions that a request draws. -/
def portions : Ask → List Portion
  | key length | value length => [{ length }]
  | strictKey length | strictValue length => [{ length, strict := true }]
  | uniqueKeys count length => List.replicate count { length }
  | pairs count => (List.replicate count [{ length := 16 }, { length := 64 }]).flatten

variable {ε : Type} [EntropySource ε]

theorem reports (ask : Ask) : Draw.Reports (ask.draw : Draw ε _) ask.portions := by
  cases ask with
  | key length => exact (Generator.reports_key length).map _
  | value length => exact (Generator.reports_value length).map _
  | strictKey length => exact (Generator.reports_spelled .key length).map _
  | strictValue length => exact (Generator.reports_spelled .value length).map _
  | uniqueKeys count length => exact (Generator.reports_uniqueKeys count length).map _
  | pairs count => exact (Generator.reports_pairs count).map _

theorem reports_drawAll (asks : List Ask) :
    Draw.Reports (drawAll asks : Draw ε _) (asks.flatMap portions) := by
  induction asks with
  | nil => exact .pure []
  | cons ask asks ih =>
      simp only [drawAll, List.mapM_cons, bind_pure_comp]
      exact ask.reports.bind fun first => ih.map (first :: ·)

/-- **Only the first of all fallbacks is warned of.** As long as no fill for a portion that may fall
back has failed, a generator reports nothing. The first such failure brings a warning that carries
the seed and the failure, and each later one a remark. So it is at every point of a sequence of
requests, since its beginnings are such sequences too. A generator that has reported a failure
before goes on with remarks. -/
theorem warned_once (asks : List Ask) (generator : Generator ε) :
    let drawn := drawAll asks generator
    let failures := Portion.fallbacks (asks.flatMap portions) generator.source
    let seed := Event.numberField "seed" generator.seed.toNat
    drawn.events = Event.ofFallbacks generator.seed generator.reported failures ∧
      (drawn.events.map fun event => (event.level, event.fields)) =
        (match generator.reported, failures with
        | false, first :: later =>
            (.warning, [seed, ("error", .text first.message)]) ::
              later.map fun _ => (.debug, [seed])
        | _, failures => failures.map fun _ => (.debug, [seed])) ∧
      drawn.generator.seed = generator.seed ∧
      drawn.generator.reported = (generator.reported || !failures.isEmpty) := by
  intro drawn failures seed
  have events : drawn.events = Event.ofFallbacks generator.seed generator.reported failures :=
    (reports_drawAll asks).events generator
  have left : drawn.generator = generator.after (asks.flatMap portions) :=
    (reports_drawAll asks).generator generator
  refine ⟨events, ?_, congrArg (·.seed) left, congrArg (·.reported) left⟩
  rw [events]
  cases generator.reported with
  | true => exact List.map_map
  | false =>
      cases failures with
      | nil => rfl
      | cons first later => exact congrArg (_ :: ·) List.map_map

/-- A strict request fails first, then a value falls back, and then the third of three keys, the
second of which had to be changed. -/
theorem warned_once_among_strict_failures :
    let generator : Generator Source :=
      { source := .planned #[.refusal (.entropy "once"), .refusal (.entropy "twice"),
          .pattern #[25], .pattern #[25], .refusal (.entropy "thrice")] 0
        seed := 7 }
    let drawn := drawAll [key 0, strictKey 4, value 3, uniqueKeys 3 7] generator
    drawn.events = [.fallbackBegun 7 (.entropy "twice"), .fallbackRepeated 7] := by
  intro generator drawn
  rw [(warned_once _ generator).1]
  decide

end Ask

end StoreTrial
