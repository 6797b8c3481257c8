import StoreTrial.Proofs.EngineCalls
import StoreTrial.Proofs.PayloadLetters

/-! # Fills of payloads

Which fills of its source a generator takes for what it is asked. A source may be given by the
outcomes of its fills one after another, as a tape. A computation that draws payloads takes as many
outcomes as it asks for payloads that are not empty, and what it gives follows from these outcomes
and the seed (`StoreTrial.Draw.Takes`). So among requests of every kind, each finds the tape where
the fills of those before it have left it (`StoreTrial.Ask.answers_in_turn`).
-/

namespace StoreTrial

/-- The outcomes of fills, by their number and the size of the buffer. -/
abbrev Tape := (number size : Nat) → Except Failure (Filled size)

/-- A source that gives the outcomes of a tape one after another. -/
structure TapeReader where
  tape : Tape
  taken : Nat

namespace TapeReader

instance : EntropySource TapeReader where
  fill reader size := (reader.tape reader.taken size, { reader with taken := reader.taken + 1 })

/-- The reader after more fills. -/
def skip (reader : TapeReader) (fills : Nat) : TapeReader :=
  { reader with taken := reader.taken + fills }

end TapeReader

namespace Tape

/-- The outcomes from a number on. -/
def after (tape : Tape) (fills : Nat) : Tape := fun number => tape (fills + number)

/-- What a strict request for a payload of a length gives: the letters that the bytes of the next
fill pick, each at its place, or the failure of that fill. -/
def spelled (tape : Tape) (alphabet : Alphabet) (length : Nat) : Except Failure Bytes :=
  if length = 0 then .ok []
  else (tape 0 length).map fun bytes => bytes.val.map fun byte => alphabet.letter byte.toNat

/-- The payload of a request that falls back. -/
def payload (tape : Tape) (alphabet : Alphabet) (length : Nat) (fallback : Bytes) : Bytes :=
  match tape.spelled alphabet length with
  | .ok payload => payload
  | .error _ => fallback

/-- The key that the next fill gives. -/
def key (tape : Tape) (seed : UInt64) (length : Nat) : Bytes :=
  tape.payload .key length (Generator.fallbackKey seed length)

/-- The value that the next fill gives. -/
def value (tape : Tape) (seed : UInt64) (length : Nat) : Bytes :=
  tape.payload .value length (Generator.fallbackValue seed length)

theorem after_zero (tape : Tape) : tape.after 0 = tape := by
  funext number
  rw [after, Nat.zero_add]

theorem after_after (tape : Tape) (first second : Nat) :
    (tape.after first).after second = tape.after (first + second) := by
  funext number
  rw [after, after, after, Nat.add_assoc]

end Tape

/-- The outcomes that a reader has before it. -/
def TapeReader.rest (reader : TapeReader) : Tape := reader.tape.after reader.taken

theorem TapeReader.rest_skip (reader : TapeReader) (fills : Nat) :
    (reader.skip fills).rest = reader.rest.after fills :=
  (Tape.after_after _ _ _).symm

theorem TapeReader.skip_skip (reader : TapeReader) (first second : Nat) :
    (reader.skip first).skip second = reader.skip (first + second) := by
  simp only [skip, Nat.add_assoc]

namespace Draw

variable {α β : Type} {fills more : Nat}

/-- Wherever the tape is, a computation takes so many outcomes and keeps the seed, and what it gives
follows from the seed and the outcomes from there on. -/
structure Takes (draw : Draw TapeReader α) (fills : Nat) (reply : UInt64 → Tape → α) : Prop where
  value : ∀ generator, (draw generator).value = reply generator.seed generator.source.rest
  source : ∀ generator, (draw generator).generator.source = generator.source.skip fills
  seed : ∀ generator, (draw generator).generator.seed = generator.seed

namespace Takes

variable {draw : Draw TapeReader α} {reply : UInt64 → Tape → α}

theorem pure (value : α) : Takes (Pure.pure value) 0 fun _ _ => value :=
  ⟨fun _ => rfl, fun _ => rfl, fun _ => rfl⟩

theorem bind {next : α → Draw TapeReader β} {result : α → UInt64 → Tape → β}
    (first : Takes draw fills reply) (second : ∀ value, Takes (next value) more (result value)) :
    Takes (draw >>= next) (fills + more) fun seed tape =>
      result (reply seed tape) seed (tape.after fills) where
  value generator := by
    change (next (draw generator).value (draw generator).generator).value = _
    rw [(second _).value, first.value, first.seed, first.source, TapeReader.rest_skip]
  source generator := by
    change (next (draw generator).value (draw generator).generator).generator.source = _
    rw [(second _).source, first.source, TapeReader.skip_skip]
  seed generator := by
    change (next (draw generator).value (draw generator).generator).generator.seed = _
    rw [(second _).seed, first.seed]

theorem map (takes : Takes draw fills reply) (f : α → β) :
    Takes (f <$> draw) fills fun seed tape => f (reply seed tape) :=
  ⟨fun generator => congrArg f (takes.value generator), takes.source, takes.seed⟩

/-- Payloads drawn one after another stand on the tape one after another. -/
theorem replicate (takes : Takes draw fills reply) (count : Nat) :
    Takes (Draw.replicate draw count) (count * fills) fun seed tape =>
      (List.range count).map fun number => reply seed (tape.after (number * fills)) := by
  induction count with
  | zero =>
      rw [Nat.zero_mul]
      exact Takes.pure []
  | succ count ih =>
      have drawn : Takes (Draw.replicate draw (count + 1)) (fills + count * fills) _ :=
        takes.bind fun first => ih.map (first :: ·)
      have listed (seed : UInt64) (tape : Tape) :
          (List.range (count + 1)).map (fun number => reply seed (tape.after (number * fills))) =
            reply seed tape :: (List.range count).map fun number =>
              reply seed ((tape.after fills).after (number * fills)) := by
        rw [List.range_succ_eq_map, List.map_cons, List.map_map, Nat.zero_mul, Tape.after_zero]
        refine congrArg (_ :: ·) (List.map_congr_left fun number _ => ?_)
        rw [Function.comp, Tape.after_after, Nat.succ_mul, Nat.add_comm]
      simp only [listed]
      rwa [Nat.succ_mul, Nat.add_comm (count * fills)]

end Takes

end Draw

/-! ## Single payloads -/

namespace Generator

/-- The number of fills for a payload of a length. -/
def fillsOf (length : Nat) : Nat := if length = 0 then 0 else 1

theorem takes_spelled (alphabet : Alphabet) (length : Nat) :
    Draw.Takes (spelled alphabet length) (fillsOf length) fun _ tape =>
      tape.spelled alphabet length := by
  by_cases empty : length = 0
  · have drawn : spelled alphabet length = (pure (.ok []) : Draw TapeReader _) :=
      funext fun _ => if_pos empty
    simp only [fillsOf, Tape.spelled, if_pos empty]
    rw [drawn]
    exact .pure _
  · have drawn (generator : Generator TapeReader) :
        spelled alphabet length generator =
          ⟨(generator.source.rest 0 length).map fun bytes => alphabet.spell bytes.val, [],
            { generator with source := generator.source.skip 1 }⟩ := if_neg empty
    simp only [fillsOf, Tape.spelled, if_neg empty]
    exact ⟨fun generator => congrArg Drawn.value (drawn generator),
      fun generator => congrArg (·.generator.source) (drawn generator),
      fun generator => congrArg (·.generator.seed) (drawn generator)⟩

theorem takes_orFallback {request : Draw TapeReader (Except Failure Bytes)} {fills : Nat}
    {alphabet : Alphabet} {length : Nat} {fallback : UInt64 → Bytes}
    (takes : Draw.Takes request fills fun _ tape => tape.spelled alphabet length) :
    Draw.Takes (orFallback fallback request) fills fun seed tape =>
      tape.payload alphabet length (fallback seed) := by
  -- What was reported may change, but neither the source nor the seed does.
  have drawn (generator : Generator TapeReader) :
      ∃ events reported, orFallback fallback request generator =
        ⟨generator.source.rest.payload alphabet length (fallback generator.seed), events,
          { (request generator).generator with reported := reported }⟩ := by
    cases result : (request generator).value with
    | ok payload =>
        rw [orFallback_of_ok result, Tape.payload, ← takes.value, result]
        exact ⟨_, _, rfl⟩
    | error failure =>
        rw [orFallback_of_error result, Tape.payload, ← takes.value, result, takes.seed]
        exact ⟨_, _, rfl⟩
  refine ⟨fun generator => ?_, fun generator => ?_, fun generator => ?_⟩
  all_goals obtain ⟨events, reported, same⟩ := drawn generator
  · rw [same]
  · rw [same]
    exact takes.source generator
  · rw [same]
    exact takes.seed generator

theorem takes_key (length : Nat) :
    Draw.Takes (key length) (fillsOf length) fun seed tape => tape.key seed length :=
  takes_orFallback (takes_spelled .key length)

theorem takes_value (length : Nat) :
    Draw.Takes (value length) (fillsOf length) fun seed tape => tape.value seed length :=
  takes_orFallback (takes_spelled .value length)

end Generator

/-! ## Several payloads at once -/

/-- Keys that are changed one after another until they are free of the taken ones, of which there
are `index`, and of those before them. -/
def Key.allFree : (index : Nat) → (taken : Std.ExtTreeSet Bytes compare) → List Bytes → List Bytes
  | _, _, [] => []
  | index, taken, key :: keys =>
      let first := free taken.contains index key
      first :: allFree (index + 1) (taken.insert first) keys

/-- Puts values under keys that are changed until they are free of the ones before, of which there
are `index`. -/
def Store.insertFree : (index : Nat) → Store → List (Bytes × Bytes) → Store
  | _, pairs, [] => pairs
  | index, pairs, (key, value) :: rest =>
      insertFree (index + 1) (pairs.insert (Key.free pairs.contains index key) value) rest

namespace Generator

variable {ε : Type} [EntropySource ε]

/-- Free keys are drawn as keys are, and changed afterwards. -/
theorem freeKeys_eq_map (length count index : Nat) (taken : Std.ExtTreeSet Bytes compare) :
    (freeKeys length count index taken : Draw ε (List Bytes)) =
      Key.allFree index taken <$> Draw.replicate (key length) count := by
  induction count generalizing index taken with
  | zero => rfl
  | succ count ih =>
      -- A changed key takes no fill, so the change can wait until all keys are drawn.
      change (do
        let first ← freeKey length index taken.contains
        (first :: ·) <$> freeKeys length count (index + 1) (taken.insert first)) =
          Key.allFree index taken <$> (do
            let first ← key length
            (first :: ·) <$> Draw.replicate (key length) count)
      simp only [freeKey, ih, map_bind, bind_assoc, pure_bind, Functor.map_map]
      rfl

/-- Draws a key and a value for a pair. -/
def pair : Draw ε (Bytes × Bytes) := do
  let key ← key pairKeyLength
  let value ← value pairValueLength
  return (key, value)

/-- Pairs are drawn one after another, and their keys changed afterwards. -/
theorem addPairs_eq_map (count index : Nat) (made : Store) :
    (addPairs count index made : Draw ε Store) =
      Store.insertFree index made <$> Draw.replicate pair count := by
  induction count generalizing index made with
  | zero => rfl
  | succ count ih =>
      change (do
        let key ← freeKey pairKeyLength index made.contains
        let value ← value pairValueLength
        addPairs count (index + 1) (made.insert key value)) =
          Store.insertFree index made <$> (do
            let first ← pair
            (first :: ·) <$> Draw.replicate pair count)
      simp only [freeKey, pair, ih, map_bind, bind_assoc, pure_bind, Functor.map_map]
      rfl

theorem takes_uniqueKeys (count length : Nat) :
    Draw.Takes (uniqueKeys count length) (count * fillsOf length) fun seed tape =>
      Key.allFree 0 ∅ ((List.range count).map fun number =>
        (tape.after (number * fillsOf length)).key seed length) := by
  rw [uniqueKeys, freeKeys_eq_map]
  exact ((takes_key length).replicate count).map _

theorem takes_pair :
    Draw.Takes pair 2 fun seed tape =>
      (tape.key seed pairKeyLength, (tape.after 1).value seed pairValueLength) :=
  (takes_key pairKeyLength).bind fun key => (takes_value pairValueLength).bind fun value =>
    .pure (key, value)

theorem takes_pairs (count : Nat) :
    Draw.Takes (pairs count) (count * 2) fun seed tape =>
      Store.insertFree 0 .empty ((List.range count).map fun number =>
        ((tape.after (number * 2)).key seed pairKeyLength,
          (tape.after (number * 2 + 1)).value seed pairValueLength)) := by
  have drawn := (takes_pair.replicate count).map (Store.insertFree 0 .empty)
  rw [pairs, addPairs_eq_map]
  simpa only [Tape.after_after] using drawn

end Generator

/-! ## Requests in turn -/

/-- What a generator is asked for: one payload, which may have to be drawn strictly, or several
keys or pairs at once. -/
inductive Ask where
  | key (length : Nat)
  | value (length : Nat)
  | strictKey (length : Nat)
  | strictValue (length : Nat)
  | uniqueKeys (count length : Nat)
  | pairs (count : Nat)
  deriving DecidableEq

/-- What a generator answers. -/
inductive Answer where
  | payload (payload : Bytes)
  | strict (result : Except Failure Bytes)
  | keys (keys : List Bytes)
  | pairs (pairs : Store)
  deriving DecidableEq

namespace Ask

/-- Asks a generator. -/
def draw {ε : Type} [EntropySource ε] : Ask → Draw ε Answer
  | key length => .payload <$> Generator.key length
  | value length => .payload <$> Generator.value length
  | strictKey length => .strict <$> Generator.key? length
  | strictValue length => .strict <$> Generator.value? length
  | uniqueKeys count length => .keys <$> Generator.uniqueKeys count length
  | pairs count => .pairs <$> Generator.pairs count

/-- The number of fills that a request takes: one for a payload that is not empty. -/
def fills : Ask → Nat
  | key length | value length | strictKey length | strictValue length => Generator.fillsOf length
  | uniqueKeys count length => if length = 0 then 0 else count
  | pairs count => 2 * count

/-- The answer to a request that follows from the seed and the outcomes from there on. Keys that are
asked for together are made of one outcome each; pairs take outcomes for a key and for a value by
turns. -/
def answer (seed : UInt64) : Ask → Tape → Answer
  | key length, tape => .payload (tape.key seed length)
  | value length, tape => .payload (tape.value seed length)
  | strictKey length, tape => .strict (tape.spelled .key length)
  | strictValue length, tape => .strict (tape.spelled .value length)
  | uniqueKeys count length, tape =>
      .keys (Key.allFree 0 ∅ ((List.range count).map fun number =>
        (tape.after number).key seed length))
  | pairs count, tape =>
      .pairs (Store.insertFree 0 .empty ((List.range count).map fun number =>
        ((tape.after (2 * number)).key seed 16, (tape.after (2 * number + 1)).value seed 64)))

theorem takes (ask : Ask) :
    Draw.Takes ask.draw ask.fills fun seed tape => ask.answer seed tape := by
  cases ask with
  | key length => exact (Generator.takes_key length).map _
  | value length => exact (Generator.takes_value length).map _
  | strictKey length => exact (Generator.takes_spelled .key length).map _
  | strictValue length => exact (Generator.takes_spelled .value length).map _
  | uniqueKeys count length =>
      have drawn := (Generator.takes_uniqueKeys count length).map Answer.keys
      by_cases empty : length = 0
      · subst empty
        exact drawn
      · simpa only [draw, fills, answer, Generator.fillsOf, if_neg empty, Nat.mul_one] using drawn
  | pairs count =>
      have drawn := (Generator.takes_pairs count).map Answer.pairs
      simp only [Nat.mul_comm _ 2] at drawn
      exact drawn

/-- Asks a generator for one thing after another. -/
def drawAll {ε : Type} [EntropySource ε] (asks : List Ask) : Draw ε (List Answer) :=
  asks.mapM draw

/-- The number of fills that requests take. -/
def allFills : List Ask → Nat
  | [] => 0
  | ask :: asks => ask.fills + allFills asks

/-- The answers to requests, each from where the fills of those before it end. -/
def answers (seed : UInt64) : List Ask → Tape → List Answer
  | [], _ => []
  | ask :: asks, tape => ask.answer seed tape :: answers seed asks (tape.after ask.fills)

theorem takes_drawAll (asks : List Ask) :
    Draw.Takes (drawAll asks) (allFills asks) fun seed tape => answers seed asks tape := by
  induction asks with
  | nil => exact .pure []
  | cons ask asks ih =>
      simp only [drawAll, List.mapM_cons, bind_pure_comp]
      exact ask.takes.bind fun first => ih.map (first :: ·)

theorem length_answers (seed : UInt64) (asks : List Ask) (tape : Tape) :
    (answers seed asks tape).length = asks.length := by
  induction asks generalizing tape with
  | nil => rfl
  | cons ask asks ih => exact congrArg Nat.succ (ih _)

theorem getElem?_answers {seed : UInt64} {asks : List Ask} {tape : Tape} {place : Nat} {ask : Ask}
    (found : asks[place]? = some ask) :
    (answers seed asks tape)[place]? =
      some (ask.answer seed (tape.after (allFills (asks.take place)))) := by
  induction asks generalizing tape place with
  | nil => simp at found
  | cons first asks ih =>
      cases place with
      | zero =>
          cases found
          rw [List.take_zero]
          exact congrArg (fun tape => some (ask.answer seed tape)) tape.after_zero.symm
      | succ place =>
          rw [answers, List.getElem?_cons_succ, ih found, Tape.after_after, List.take_succ_cons]
          rfl

/-- **Each of several requests is answered from where those before it have left the tape.** This is
after one outcome for every payload that is not empty, whether the outcome was a failure and whether
a key had to be changed or not. Besides the outcomes that they took, earlier requests leave nothing
behind that tells in later answers. -/
theorem answers_in_turn (asks later : List Ask) (generator : Generator TapeReader) :
    let drawn := drawAll asks generator
    drawn.generator.source = generator.source.skip (allFills asks) ∧
      drawn.generator.seed = generator.seed ∧
      drawn.value.length = asks.length ∧
      (∀ (place : Nat) (ask : Ask), asks[place]? = some ask →
        drawn.value[place]? = some
          (ask.answer generator.seed (generator.source.rest.after (allFills (asks.take place))))) ∧
      (drawAll later drawn.generator).value =
        (drawAll later
          { source := generator.source.skip (allFills asks), seed := generator.seed }).value := by
  intro drawn
  have takes := takes_drawAll asks
  have value : drawn.value = answers generator.seed asks generator.source.rest :=
    takes.value generator
  refine ⟨takes.source generator, takes.seed generator, ?_, ?_, ?_⟩
  · rw [value, length_answers]
  · intro place ask found
    rw [value, getElem?_answers found]
  · rw [(takes_drawAll later).value, (takes_drawAll later).value, takes.source, takes.seed]

/-- Two equal fills, a failure, and after that bytes that count up. -/
def unsteady : Tape := fun number size =>
  match number with
  | 0 | 1 => .ok (Filled.ofPositions size fun _ => 25)
  | 2 => .error (.entropy "gone")
  | _ => .ok (Filled.ofPositions size Nat.toUInt8)

theorem answers_in_turn_after_collision :
    let asks := [key 0, uniqueKeys 2 7, strictKey 4, value 3]
    let drawn := drawAll asks ({ source := ⟨unsteady, 0⟩, seed := 7 } : Generator TapeReader)
    asks[1]? = some (uniqueKeys 2 7) ∧ asks[3]? = some (value 3) ∧
      drawn.value[1]? = some (.keys [Bytes.ofText "zzzzzzz", Bytes.ofText "z000001"]) ∧
      drawn.value[3]? = some (.payload (Bytes.ofText "abc")) ∧
      drawn.generator.source.taken = 4 := by
  intro asks drawn
  obtain ⟨source, -, -, answered, -⟩ :=
    answers_in_turn asks [] { source := ⟨unsteady, 0⟩, seed := 7 }
  refine ⟨rfl, rfl, ?_, ?_, ?_⟩
  · rw [answered 1 _ rfl]
    decide +kernel
  · rw [answered 3 _ rfl]
    decide +kernel
  · rw [source]
    decide

end Ask

end StoreTrial
