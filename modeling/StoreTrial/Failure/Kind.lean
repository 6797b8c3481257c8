import StoreTrial.Failure.Basic
import StoreTrial.Text.Blank

/-! # Kinds of failures

What a failure means to the harness: the key is absent, the handle is closed, or
anything else. An engine that reports plain text is read by the phrases that
engines commonly use.
-/

namespace StoreTrial

/-- What a failure means, however it was worded. -/
inductive FailureKind where
  | notFound
  | closed
  | other
  deriving DecidableEq

/-- The name of a kind. -/
def FailureKind.label : FailureKind → String
  | .notFound => "NotFound"
  | .closed => "Closed"
  | .other => "Other"

namespace FailureKind

/-- Whether a text begins with another. -/
def beginsWith : (text phrase : List Char) → Bool
  | _, [] => true
  | [], _ :: _ => false
  | c :: text, d :: phrase => c == d && beginsWith text phrase

/-- Whether a text contains another. -/
def contains : (text phrase : List Char) → Bool
  | [], phrase => phrase.isEmpty
  | c :: text, phrase => beginsWith (c :: text) phrase || contains text phrase

/-- Phrases for an absent key, alone or inside a longer message. -/
def absentPhrases : List String :=
  ["key not found", "not found", "no such key", "does not exist"]

/-- Phrases for a closed handle that count only as the whole message. -/
def closedMessages : List String := ["engine is closed", "already closed", "closed"]

/-- Phrases for a closed handle inside a longer message. -/
def closedPhrases : List String := ["engine is closed", "already closed"]

/-- A text without the blanks around it and with the letters of ASCII in lower
case. -/
def normal (text : String) : List Char := (Text.trim text.toList).map Char.toLower

/-- Whether the text is one of the phrases. -/
def isOneOf (text : List Char) (phrases : List String) : Bool :=
  phrases.any fun phrase => phrase.toList == text

/-- Whether the text contains one of the phrases. -/
def containsOneOf (text : List Char) (phrases : List String) : Bool :=
  phrases.any fun phrase => contains text phrase.toList

/-- The meaning of a message: the whole message decides before its parts, and an
absent key before a closed handle. -/
def ofMessage (message : String) : FailureKind :=
  let text := normal message
  if isOneOf text absentPhrases then .notFound
  else if isOneOf text closedMessages then .closed
  else if containsOneOf text absentPhrases then .notFound
  else if containsOneOf text closedPhrases then .closed
  else .other

end FailureKind

namespace Failure

/-- What a failure means. Only the plain text of an engine has to be read. -/
def kind : Failure → FailureKind
  | .notFound => .notFound
  | .closed => .closed
  | .engine message => .ofMessage message
  | _ => .other

/-- Whether the failure says that the key is absent. -/
def isNotFound (failure : Failure) : Bool := failure.kind == .notFound

/-- Whether the failure says that the handle is closed. -/
def isClosed (failure : Failure) : Bool := failure.kind == .closed

end Failure

end StoreTrial
