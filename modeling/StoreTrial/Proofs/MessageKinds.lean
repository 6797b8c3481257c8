import Mathlib.Data.List.Infix
import StoreTrial.Failure.Kind
import StoreTrial.Proofs.TrimmedText

/-! # What messages say

A message says that a key is absent if a part of it is one of the phrases for that, and that the
handle is closed if it is the bare word for that or a part of it is one of the specific phrases; the
first counts before the second (`StoreTrial.FailureKind.ofMessage_iff_tells`). A message is trimmed
before it is read, which takes no phrase apart, and reading the whole of it first never contradicts
what its parts say.
-/

namespace StoreTrial.FailureKind

open Text (AllBlank IsFirm)

/-- The texts differ at most in the case of the letters of ASCII. -/
def SameLetters (left right : List Char) : Prop := left.map Char.toLower = right.map Char.toLower

instance (left right : List Char) : Decidable (SameLetters left right) :=
  inferInstanceAs (Decidable (left.map Char.toLower = right.map Char.toLower))

/-- A part of the text is the phrase, in whatever case. -/
def Mentions (text : List Char) (phrase : String) : Prop :=
  ∃ part, part <:+: text ∧ SameLetters part phrase.toList

/-- The text says that a key is absent. -/
def TellsAbsence (text : List Char) : Prop :=
  ∃ phrase ∈ ["not found", "no such key", "does not exist"], Mentions text phrase

/-- The text says in a specific phrase that a handle is closed. -/
def TellsClosure (text : List Char) : Prop :=
  ∃ phrase ∈ ["engine is closed", "already closed"], Mentions text phrase

/-- The text is the bare word for a closed handle. -/
def IsBareClosed (text : List Char) : Prop := SameLetters (Text.trim text) "closed".toList

/-- What a message means as a whole, if anything. -/
def ofWhole (message : String) : Option FailureKind :=
  if isOneOf (normal message) absentPhrases then some .notFound
  else if isOneOf (normal message) closedMessages then some .closed
  else none

/-- What the parts of a message mean, if anything. -/
def ofParts (message : String) : Option FailureKind :=
  if containsOneOf (normal message) absentPhrases then some .notFound
  else if containsOneOf (normal message) closedPhrases then some .closed
  else none

theorem ofMessage_eq_or (message : String) :
    ofMessage message = ((ofWhole message).or (ofParts message)).getD .other := by
  rw [ofMessage, ofWhole, ofParts]
  cases isOneOf (normal message) absentPhrases with
  | true => rfl
  | false =>
      cases isOneOf (normal message) closedMessages with
      | true => rfl
      | false =>
          cases containsOneOf (normal message) absentPhrases with
          | true => rfl
          | false => cases containsOneOf (normal message) closedPhrases <;> rfl

/-! ## Phrases in trimmed messages -/

theorem beginsWith_eq_true_iff {text phrase : List Char} :
    beginsWith text phrase = true ↔ phrase <+: text := by
  induction text generalizing phrase with
  | nil => cases phrase <;> simp [beginsWith]
  | cons c text ih =>
      cases phrase with
      | nil => simp [beginsWith]
      | cons d phrase =>
          rw [beginsWith, Bool.and_eq_true, beq_iff_eq, ih, List.cons_prefix_cons, @eq_comm _ c d]

theorem contains_eq_true_iff {text phrase : List Char} :
    contains text phrase = true ↔ phrase <:+: text := by
  induction text with
  | nil => simp [contains]
  | cons c text ih =>
      rw [contains, Bool.or_eq_true, beginsWith_eq_true_iff, ih, List.infix_cons_iff]

theorem isOneOf_eq_true_iff {text : List Char} {phrases : List String} :
    isOneOf text phrases = true ↔ ∃ phrase ∈ phrases, phrase.toList = text := by
  simp [isOneOf]

theorem containsOneOf_eq_true_iff {text : List Char} {phrases : List String} :
    containsOneOf text phrases = true ↔ ∃ phrase ∈ phrases, phrase.toList <:+: text := by
  simp [containsOneOf, contains_eq_true_iff]

/-- A text that is a phrase contains it. -/
theorem containsOneOf_of_isOneOf {text : List Char} {phrases : List String}
    (whole : isOneOf text phrases = true) : containsOneOf text phrases = true := by
  obtain ⟨phrase, known, rfl⟩ := isOneOf_eq_true_iff.mp whole
  exact containsOneOf_eq_true_iff.mpr ⟨phrase, known, List.infix_rfl⟩

/-- A phrase that is in lower case and has no blanks around it. -/
structure IsPhrase (phrase : String) : Prop where
  lower : phrase.toList.map Char.toLower = phrase.toList
  firm : IsFirm phrase.toList

instance (phrase : String) : Decidable (IsPhrase phrase) :=
  decidable_of_iff (phrase.toList.map Char.toLower = phrase.toList ∧ IsFirm phrase.toList)
    ⟨fun ⟨lower, firm⟩ => ⟨lower, firm⟩, fun known => ⟨known.lower, known.firm⟩⟩

/-- A phrase is in a message exactly if it is in what is left of the message when it is trimmed and
put in lower case. -/
theorem IsPhrase.mentions_iff {phrase : String} (known : IsPhrase phrase) (message : String) :
    Mentions message.toList phrase ↔ phrase.toList <:+: normal message := by
  rw [normal, List.infix_map_iff]
  constructor
  · rintro ⟨part, within, same⟩
    have read : part.map Char.toLower = phrase.toList := same.trans known.lower
    have firm : IsFirm part := Text.isFirm_map_toLower_iff.mp (read ▸ known.firm)
    exact ⟨part, firm.infix_trim within, read.symm⟩
  · rintro ⟨part, within, read⟩
    exact ⟨part, within.trans (Text.trim_infix _), read.symm.trans known.lower.symm⟩

theorem mentions_iff_of_forall {phrases : List String} (known : ∀ phrase ∈ phrases, IsPhrase phrase)
    (message : String) :
    (∃ phrase ∈ phrases, Mentions message.toList phrase) ↔
      containsOneOf (normal message) phrases = true := by
  rw [containsOneOf_eq_true_iff]
  exact exists_congr fun phrase =>
    and_congr_right fun member => (known phrase member).mentions_iff message

/-- Of the phrases for an absent key one is a part of another, so the shorter ones tell. -/
theorem tellsAbsence_iff (message : String) :
    TellsAbsence message.toList ↔ containsOneOf (normal message) absentPhrases = true := by
  have part : "not found".toList <:+: "key not found".toList := by decide +kernel
  rw [TellsAbsence, mentions_iff_of_forall (by decide +kernel), containsOneOf_eq_true_iff,
    containsOneOf_eq_true_iff]
  constructor
  · rintro ⟨phrase, known, within⟩
    exact ⟨phrase, List.mem_cons_of_mem _ known, within⟩
  · rintro ⟨phrase, known, within⟩
    rcases List.mem_cons.mp known with rfl | shorter
    · exact ⟨_, List.mem_cons_self, part.trans within⟩
    · exact ⟨phrase, shorter, within⟩

theorem tellsClosure_iff (message : String) :
    TellsClosure message.toList ↔ containsOneOf (normal message) closedPhrases = true :=
  mentions_iff_of_forall (by decide +kernel) message

instance (message : String) : Decidable (TellsAbsence message.toList) :=
  decidable_of_iff _ (tellsAbsence_iff message).symm

instance (message : String) : Decidable (TellsClosure message.toList) :=
  decidable_of_iff _ (tellsClosure_iff message).symm

theorem isBareClosed_iff (message : String) :
    IsBareClosed message.toList ↔ normal message = "closed".toList := by
  have lower : "closed".toList.map Char.toLower = "closed".toList := by decide +kernel
  rw [IsBareClosed, SameLetters, lower, normal]

/-- A message that is a whole one for a closed handle is the bare word, or a specific phrase. -/
theorem isOneOf_closedMessages_iff {text : List Char} :
    isOneOf text closedMessages = true ↔
      text = "closed".toList ∨ isOneOf text closedPhrases = true := by
  have joined : closedMessages = closedPhrases ++ ["closed"] := rfl
  simp only [joined, isOneOf_eq_true_iff, List.mem_append, List.mem_singleton, or_and_right,
    exists_or, exists_eq_left, @eq_comm _ text]
  exact or_comm

/-- No message that is a whole one for a closed handle says that a key is absent. -/
theorem containsOneOf_absent_of_isOneOf_closed {text : List Char}
    (whole : isOneOf text closedMessages = true) : containsOneOf text absentPhrases = false := by
  obtain ⟨phrase, known, rfl⟩ := isOneOf_eq_true_iff.mp whole
  have none : ∀ phrase ∈ closedMessages, containsOneOf phrase.toList absentPhrases = false := by
    decide +kernel
  exact none phrase known

open Classical in
/-- The meaning of a message, with no regard to stages. -/
theorem ofMessage_eq_ite (message : String) :
    ofMessage message =
      if TellsAbsence message.toList then .notFound
      else if IsBareClosed message.toList ∨ TellsClosure message.toList then .closed
      else .other := by
  simp only [tellsAbsence_iff, tellsClosure_iff, isBareClosed_iff, ofMessage]
  by_cases absent : isOneOf (normal message) absentPhrases = true
  · rw [if_pos absent, if_pos (containsOneOf_of_isOneOf absent)]
  rw [if_neg absent]
  by_cases closed : isOneOf (normal message) closedMessages = true
  · have found : normal message = "closed".toList ∨
        containsOneOf (normal message) closedPhrases = true :=
      (isOneOf_closedMessages_iff.mp closed).imp_right containsOneOf_of_isOneOf
    rw [if_pos closed, containsOneOf_absent_of_isOneOf_closed closed, if_neg Bool.false_ne_true,
      if_pos found]
  · have unbare : normal message ≠ "closed".toList := fun bare =>
      closed (isOneOf_closedMessages_iff.mpr (.inl bare))
    simp only [if_neg closed, unbare, false_or]

/-- What the whole of a message means is what its parts mean, unless it is the bare word for a
closed handle, of which the parts mean nothing. -/
theorem ofParts_of_ofWhole {message : String} {kind : FailureKind}
    (whole : ofWhole message = some kind) :
    ofParts message = some kind ∨ IsBareClosed message.toList ∧ ofParts message = none := by
  rw [ofWhole] at whole
  rw [isBareClosed_iff, ofParts]
  split at whole
  · rename_i absent
    rw [if_pos (containsOneOf_of_isOneOf absent)]
    exact .inl whole
  · split at whole
    · rename_i closed
      rw [containsOneOf_absent_of_isOneOf_closed closed, if_neg Bool.false_ne_true]
      rcases isOneOf_closedMessages_iff.mp closed with bare | specific
      · have unsaid : containsOneOf "closed".toList closedPhrases = false := by decide +kernel
        rw [bare, unsaid]
        exact .inr ⟨rfl, rfl⟩
      · rw [if_pos (containsOneOf_of_isOneOf specific)]
        exact .inl whole
    · cases whole

/-! ## Messages in other words -/

theorem Mentions.append {text : List Char} {phrase : String} (mentioned : Mentions text phrase)
    (before after : List Char) : Mentions (before ++ text ++ after) phrase := by
  obtain ⟨part, within, same⟩ := mentioned
  exact ⟨part, within.trans (List.infix_append before text after), same⟩

/-- A message that says something says it inside any other. -/
theorem tellsAbsence_append {message : String} (tells : TellsAbsence message.toList)
    (before after : String) : TellsAbsence (before ++ message ++ after).toList := by
  obtain ⟨phrase, known, mentioned⟩ := tells
  rw [String.toList_append, String.toList_append]
  exact ⟨phrase, known, mentioned.append _ _⟩

theorem tellsClosure_append {message : String} (tells : TellsClosure message.toList)
    (before after : String) : TellsClosure (before ++ message ++ after).toList := by
  obtain ⟨phrase, known, mentioned⟩ := tells
  rw [String.toList_append, String.toList_append]
  exact ⟨phrase, known, mentioned.append _ _⟩

theorem ofMessage_congr {message other : String} (same : normal message = normal other) :
    ofMessage message = ofMessage other := by
  rw [ofMessage, ofMessage, same]

theorem normal_append_blanks {before after : String} (leading : AllBlank before.toList)
    (trailing : AllBlank after.toList) (message : String) :
    normal (before ++ message ++ after) = normal message := by
  rw [normal, normal, String.toList_append, String.toList_append,
    Text.trim_append_blanks leading trailing]

theorem normal_of_sameLetters {message other : String}
    (same : SameLetters message.toList other.toList) : normal message = normal other := by
  rw [normal, normal, ← Text.trim_map_toLower, ← Text.trim_map_toLower, same]

/-- **What a message means is what it says.** It means an absent key exactly if it says so, a closed
handle exactly if it does not say so and is the bare word for a closed handle or says that in a
specific phrase, and otherwise something else. The whole of a message and its parts never mean
different things, and the parts are silent on the bare word only. Blanks around a message and the
case of its letters do not matter, an absent key is meant inside any other message, and a closed
handle named in a specific phrase inside every message that does not say that a key is absent. -/
theorem ofMessage_iff_tells :
    (∀ message : String,
      let text := message.toList
      (ofMessage message = .notFound ↔ TellsAbsence text) ∧
      (ofMessage message = .closed ↔ ¬TellsAbsence text ∧ (IsBareClosed text ∨ TellsClosure text)) ∧
      (ofMessage message = .other ↔
        ¬TellsAbsence text ∧ ¬(IsBareClosed text ∨ TellsClosure text))) ∧
    (∀ message : String,
      ofMessage message = ((ofWhole message).or (ofParts message)).getD .other ∧
      (∀ whole parts, ofWhole message = some whole → ofParts message = some parts →
        whole = parts) ∧
      ((ofWhole message).isSome → ofParts message = none → IsBareClosed message.toList)) ∧
    (∀ message before after : String, AllBlank before.toList → AllBlank after.toList →
      ofMessage (before ++ message ++ after) = ofMessage message) ∧
    (∀ message other : String, SameLetters message.toList other.toList →
      ofMessage message = ofMessage other) ∧
    (∀ message before after : String, ofMessage message = .notFound →
      ofMessage (before ++ message ++ after) = .notFound) ∧
    ∀ message before after : String, TellsClosure message.toList →
      ¬TellsAbsence (before ++ message ++ after).toList →
      ofMessage (before ++ message ++ after) = .closed := by
  have meaning (message : String) := ofMessage_eq_ite message
  have absent (message : String) : ofMessage message = .notFound ↔ TellsAbsence message.toList := by
    rw [meaning]
    by_cases told : TellsAbsence message.toList
    · simp [told]
    · by_cases closed : IsBareClosed message.toList ∨ TellsClosure message.toList <;>
        simp [told, closed]
  refine ⟨?_, ?_, ?_, ?_, ?_, ?_⟩
  · intro message text
    refine ⟨absent message, ?_⟩
    rw [meaning]
    by_cases told : TellsAbsence text
    · simp [text, told]
    · by_cases closed : IsBareClosed text ∨ TellsClosure text <;> simp [text, told, closed]
  · intro message
    refine ⟨ofMessage_eq_or message, ?_, ?_⟩
    · intro whole parts first second
      rcases ofParts_of_ofWhole first with agreed | ⟨_, silent⟩
      · exact Option.some.inj (agreed.symm.trans second)
      · cases silent.symm.trans second
    · intro told silent
      obtain ⟨kind, whole⟩ := Option.isSome_iff_exists.mp told
      rcases ofParts_of_ofWhole whole with agreed | ⟨bare, _⟩
      · cases silent.symm.trans agreed
      · exact bare
  · intro message before after leading trailing
    exact ofMessage_congr (normal_append_blanks leading trailing message)
  · intro message other same
    exact ofMessage_congr (normal_of_sameLetters same)
  · intro message before after means
    exact (absent _).mpr (tellsAbsence_append ((absent message).mp means) before after)
  · intro message before after tells untold
    rw [meaning, if_neg untold, if_pos (.inr (tellsClosure_append tells before after))]

/-- A bare word between blanks, a closed handle that is named inside a longer message, and a longer
message that tells of both. -/
theorem ofMessage_iff_tells_wrapped :
    let wrapped := "write failed: " ++ "database Already Closed" ++ " (code 7)"
    let both := "get k: " ++ "Key NOT found" ++ ", engine is closed"
    (AllBlank "\u2003\t".toList ∧ SameLetters "CLOSED".toList "Closed".toList ∧
      TellsClosure "database Already Closed".toList ∧ ¬TellsAbsence wrapped.toList ∧
      ofMessage "Key NOT found" = .notFound) ∧
    ofMessage ("\u2003\t" ++ "CLOSED" ++ "") = .closed ∧
      ofMessage "connection closed by peer" = .other ∧
      ofMessage wrapped = .closed ∧ ofMessage both = .notFound := by
  intro wrapped both
  obtain ⟨_, _, blanks, letters, absent, closed⟩ := ofMessage_iff_tells
  have leading : AllBlank "\u2003\t".toList := by decide +kernel
  have same : SameLetters "CLOSED".toList "Closed".toList := by decide +kernel
  have told : TellsClosure "database Already Closed".toList := by decide +kernel
  have untold : ¬TellsAbsence wrapped.toList := by decide +kernel
  have found : ofMessage "Key NOT found" = .notFound := by decide +kernel
  have bare : ofMessage "Closed" = .closed := by decide +kernel
  refine ⟨⟨leading, same, told, untold, found⟩, ?_, by decide +kernel,
    closed _ _ _ told untold, absent _ _ _ found⟩
  rw [blanks _ _ _ leading (by decide +kernel), letters _ _ same, bare]

end StoreTrial.FailureKind
