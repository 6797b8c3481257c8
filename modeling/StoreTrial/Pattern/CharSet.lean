import StoreTrial.Pattern.Atom

/-! # Sets of characters in patterns

Members between brackets: characters, ranges, named classes, sets inside the set,
and sets made of two by an operation. Only the nesting of a set is kept.
-/

namespace StoreTrial.Pattern

/-- The nesting of parts that stand side by side, given the nesting of each: more
than one of them is one level more. -/
def sideBySide : List Nat → Nat
  | [] => 0
  | [depth] => depth
  | depths => 1 + depths.foldl max 0

/-- The character that follows a dash, as far as the dash asks for it. Behind a
number sign the first character that is not blank counts, even in a comment. -/
def peekPast (flags : Flags) (text : List Char) : Option Char :=
  if flags.verbose then
    match text.dropWhile Text.isBlank with
    | '#' :: comment => (comment.dropWhile Text.isBlank).head?.or text.head?
    | rest => rest.head?.or text.head?
  else text.head?

/-- The names of classes. -/
def classNames : List String :=
  ["alnum", "alpha", "ascii", "blank", "cntrl", "digit", "graph", "lower", "print", "punct",
    "space", "upper", "word", "xdigit"]

/-- Reads a named class behind its opening bracket: whether it is negated. What is
no named class may still be a set. -/
def readNamed? : List Char → Option (Bool × List Char)
  | ':' :: text =>
      let negated := text.head? == some '^'
      let inner := if negated then text.tail else text
      match inner.dropWhile (· != ':') with
      | ':' :: ']' :: rest =>
          if classNames.contains (String.ofList (inner.takeWhile (· != ':'))) then
            some (negated, rest)
          else none
      | _ => none
  | _ => none

/-- Whether a named class can be used as a member of a set. -/
def isClassMember (flags : Flags) (negated : Bool) : Bool :=
  if flags.unicode then !flags.ignoresCase else !negated

/-- Reads one member or one end of a range. -/
def readMember (flags : Flags) : (c : Char) → List Char → Option (Atom × List Char)
  | '\\', rest => readEscape flags rest
  | c, rest => some (.letter ⟨c, false⟩, rest)

/-- The text behind a dash that asks for the end of a range. Before a bracket or
another dash it does not. -/
def rangeEnd? (flags : Flags) : List Char → Option (List Char)
  | '-' :: rest =>
      let next := peekPast flags rest
      if next == some ']' || next == some '-' then none else some (skipBlanks flags rest)
  | _ => none

/-- Reads a character, a shorthand or a range. -/
def readItem (flags : Flags) (c : Char) (text : List Char) : Option (List Char) := do
  let (first, rest) ← readMember flags c text
  let rest := skipBlanks flags rest
  match rangeEnd? flags rest with
  | none => if first.isMember flags && !rest.isEmpty then some rest else none
  | some [] => none
  | some (d :: rest) =>
      match first, ← readMember flags d rest with
      | .letter low, (.letter high, rest) =>
          if (Atom.letter low).isMember flags && (Atom.letter high).isMember flags &&
              low.char ≤ high.char then some rest
          else none
      | _, _ => none

/-- How much of a set was read. -/
inductive SetStage where
  /-- The opening bracket. -/
  | opened
  /-- The caret behind it. -/
  | negated
  /-- Dashes that stand for themselves. -/
  | dashes
  | members
  deriving DecidableEq

/-- What an open set leaves behind while another part is read. -/
inductive SetFrame where
  /-- The members of the set around a set. -/
  | around (members : List Nat)
  /-- The left side of an operation. -/
  | left (depth : Nat)
  deriving DecidableEq

/-- A set that is being read: the nesting of its members so far, and what it leaves
behind, the innermost first. -/
structure SetState where
  stage : SetStage := .opened
  members : List Nat := []
  frames : List SetFrame := [.around []]
  deriving DecidableEq

/-- How the reading of a set goes on. -/
inductive SetStep where
  | more (state : SetState) (rest : List Char)
  | closed (depth : Nat) (rest : List Char)

namespace SetState

/-- The set with one more member. -/
def add (state : SetState) (stage : SetStage) (depth : Nat) : SetState :=
  { state with stage := stage, members := depth :: state.members }

/-- Adds a character that stands for itself. -/
def addSelf (state : SetState) (flags : Flags) (stage : SetStage) (c : Char)
    (rest : List Char) : Option SetStep :=
  if (Atom.letter ⟨c, false⟩).isMember flags then some (.more (state.add stage 0) rest) else none

/-- The nesting of what was read since the bracket of the innermost set, and what
this set leaves behind. -/
def body (state : SetState) : Nat × List SetFrame :=
  match state.frames with
  | .left depth :: frames => (1 + max depth (sideBySide state.members), frames)
  | frames => (sideBySide state.members, frames)

/-- Begins the right side of an operation. -/
def operate (state : SetState) : SetState :=
  let (depth, frames) := state.body
  { stage := .members, members := [], frames := .left depth :: frames }

/-- Begins a set inside the set. -/
def enter (state : SetState) : SetState :=
  { stage := .opened, members := [], frames := .around state.members :: state.frames }

/-- Ends the innermost set. -/
def close (state : SetState) (rest : List Char) : Option SetStep :=
  let (depth, frames) := state.body
  match frames with
  | [.around _] => some (.closed (1 + depth) rest)
  | .around members :: frames =>
      some (.more { stage := .members, members := (1 + depth) :: members, frames := frames } rest)
  | _ => none

/-- Reads on at a character that may be a part of a set with members. -/
def readOn (state : SetState) (flags : Flags) (c : Char) (rest : List Char) : Option SetStep :=
  if c == '[' then
    match readNamed? rest with
    | some (negated, left) =>
        if isClassMember flags negated then some (.more (state.add .members 0) left) else none
    | none => some (.more state.enter rest)
  else if c == ']' then state.close rest
  else if (c == '&' || c == '-' || c == '~') && rest.head? == some c then
    some (.more state.operate rest.tail)
  else do
    let left ← readItem flags c rest
    return .more (state.add .members 0) left

/-- Reads on at a character. Right behind its bracket a set takes a caret, dashes and
one closing bracket for what they are there. A negated set holds more than bytes of
ASCII. -/
def step (state : SetState) (flags : Flags) (c : Char) (rest : List Char) : Option SetStep :=
  if c == '^' && state.stage == .opened then
    if flags.unicode then some (.more { state with stage := .negated } rest) else none
  else if c == '-' && state.stage != .members then
    state.addSelf flags .dashes c rest
  else if c == ']' && (state.stage == .opened || state.stage == .negated) then
    state.addSelf flags .members c rest
  else state.readOn flags c rest

end SetState

/-- Reads a set behind its opening bracket: its nesting, and the text behind it. The
first `passed` characters were read already. -/
def readSet (flags : Flags) : (passed : Nat) → SetState → List Char → Option (Nat × List Char)
  | _, _, [] => none
  | passed + 1, state, _ :: rest => readSet flags passed state rest
  | 0, state, c :: rest =>
      let left := skipBlanks flags (c :: rest)
      if left.length < (c :: rest).length then
        readSet flags (rest.length - left.length) state rest
      else
        match state.step flags c rest with
        | none => none
        | some (.closed depth left) => some (depth, left)
        | some (.more next left) => readSet flags (rest.length - left.length) next rest

end StoreTrial.Pattern
