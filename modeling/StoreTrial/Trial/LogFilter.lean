import StoreTrial.Failure.Basic
import StoreTrial.Text.Blank
import StoreTrial.Text.Numeral
import StoreTrial.Text.Slice
import StoreTrial.Text.Wordlike

/-! # Log filters

Directives that say which events are shown, separated by commas: a level, a
target, or a target with a level, and between the two a span with a field in
braces, which may ask for a value of the field. Only whether a filter is accepted
is decided here.

A directive is read without the blanks around it, but the positions found that way
cut its parts from the text with the blanks. Where such a position is inside a
character there is no answer.
-/

namespace StoreTrial.LogFilter

/-- Why the reading of a filter ends early. -/
inductive Halt where
  | refused (fault : FilterFault)
  | splitCharacter (fault : Text.SliceFault)
  deriving DecidableEq

/-- The names of levels. -/
def levelNames : List String := ["off", "error", "warn", "info", "debug", "trace"]

/-- Whether a text names a level, in letters of either case or as a number from 0
to 5. The empty text stands for a level too. -/
def isLevel (text : List Char) : Bool :=
  text.isEmpty || levelNames.any (fun name => name.toList == text.map Char.toLower) ||
    match Text.readNumber Text.maxWord text with
    | .ok number => number ≤ 5
    | .error _ => false

/-- Accepts the value that a field is to have: a number, or a pattern that can be
used. -/
def checkValue (text : List Char) : Except Pattern.Fault Unit :=
  if Text.isDecimal text then .ok () else Pattern.check text

/-- Accepts a field, whose value stands between its first two equals signs. -/
def checkField (text : List Char) : Except FilterFault Unit :=
  if text.isEmpty then .error .malformed
  else
    match text.dropWhile (· != '=') with
    | [] => .ok ()
    | _ :: rest => (checkValue (rest.takeWhile (· != '='))).mapError .badPattern

/-- How far a directive has been read; a position is where the present part
began. -/
inductive State where
  | start
  | target
  | span (position : Nat)
  | field (position : Nat)
  | afterFields
  | afterSpan
  | level (position : Nat)
  deriving DecidableEq

/-- Whether a directive may begin with a character. -/
def mayBegin (c : Char) : Bool := c == '-' || c == ':' || c == '_' || Text.isWordlike c

/-- The part of a directive between two positions. -/
def cut (text : List Char) (start stop : Nat) : Except Halt (List Char) :=
  (Text.slice text start stop).mapError .splitCharacter

/-- The end of a directive that is not well formed. -/
def malformed {α : Type} : Except Halt α := .error (.refused .malformed)

/-- The state after one more character of a directive, which stands at a position. A
part is cut out where it ends. -/
def State.next (text : List Char) (state : State) (position : Nat) (c : Char) :
    Except Halt State :=
  match state with
  | .start =>
      if c == '[' then .ok (.span (position + 1))
      else if mayBegin c then .ok .target
      else malformed
  | .target =>
      if c == '=' then do
        let _ ← cut text 0 position
        return .level (position + 1)
      else if c == '[' then do
        let _ ← cut text 0 position
        return .span (position + 1)
      else .ok .target
  | .span first =>
      if c == ']' then do
        let _ ← cut text first position
        return .afterSpan
      else if c == '{' then do
        let _ ← cut text first position
        return .field (position + 1)
      else .ok (.span first)
  | .field first =>
      if c == '}' then do
        (checkField (← cut text first position)).mapError .refused
        return .afterFields
      else .ok (.field first)
  | .afterFields => if c == ']' then .ok .afterSpan else malformed
  | .afterSpan => if c == '=' then .ok (.level (position + 1)) else malformed
  | .level first => .ok (.level first)

/-- The state after the characters from a position on. -/
def readFrom (text : List Char) : State → (position : Nat) → List Char → Except Halt State
  | state, _, [] => .ok state
  | state, position, c :: rest => do
      readFrom text (← state.next text position c) (position + c.utf8Size) rest

/-- Accepts a directive. -/
def checkDirective (text : List Char) : Except Halt Unit := do
  match ← readFrom text .start 0 (Text.trim text) with
  | .target | .afterSpan => return
  | .level first =>
      let level ← (Text.sliceFrom text first).mapError .splitCharacter
      if isLevel level then return else throw (.refused .unknownLevel)
  | .start | .span _ | .field _ | .afterFields => malformed

/-- The parts of a filter between its commas, the first of which continues a text
read so far in reverse. -/
def split : (part : List Char) → List Char → List (List Char)
  | part, [] => [part.reverse]
  | part, c :: rest =>
      if c == ',' then part.reverse :: split [] rest else split (c :: part) rest

/-- Accepts a filter; the first directive that is not accepted decides why the
filter is refused. -/
def check (filter : String) : Except Halt Unit :=
  ((split [] filter.toList).filter fun part => !part.isEmpty).forM checkDirective

end StoreTrial.LogFilter
