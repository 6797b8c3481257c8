import StoreTrial.Pattern.CharSet
import StoreTrial.Pattern.Group

/-! # Patterns

Regular expressions that texts are matched against. Only whether a pattern can be
used is decided here (`Pattern.check`): it has to be well formed, it may not be
nested too deeply, its atoms have to be ones that can be used, and it may not ask
where words of Unicode begin and end. A pattern is free of closing braces, so that
no count of repetitions in braces ever ends.
-/

namespace StoreTrial.Pattern

/-- Why a pattern cannot be used. -/
inductive Fault where
  | unreadable
  | wordEdges
  deriving DecidableEq

/-- The explanation of a fault. -/
def Fault.message : Fault → String
  | .unreadable => "error building NFA"
  | .wordEdges =>
      "unsupported regex feature for DFAs: cannot build DFAs for regexes with Unicode word " ++
        "boundaries; switch to ASCII word boundaries, or heuristically enable Unicode word " ++
        "boundaries or use a different regex engine"

/-- A part of a pattern that stands beside others. -/
structure Piece where
  /-- How deeply its parts are nested. -/
  depth : Nat
  /-- Whether it can be repeated; a change of flags cannot. -/
  repeatable : Bool := true
  deriving DecidableEq

/-- An alternative and the ones before it, while another group is read. -/
structure Level where
  /-- The flags behind the group that is read. -/
  flags : Flags
  /-- The nesting of the alternatives before. -/
  alternatives : List Nat := []
  /-- The pieces of the alternative, the latest first. -/
  pieces : List Piece := []
  deriving DecidableEq

/-- The nesting of a group: of its alternatives and of the pieces of the last one. -/
def Level.depth (level : Level) : Nat :=
  sideBySide (sideBySide (level.pieces.map Piece.depth) :: level.alternatives)

/-- A pattern that is being read. -/
structure State where
  /-- The innermost group, with the flags that are in force. -/
  inner : Level := { flags := {} }
  /-- The groups around it, the innermost first. -/
  outer : List Level := []
  /-- The names of groups so far. -/
  names : List (List Char) := []
  /-- Whether an edge of a word of Unicode was asked for. -/
  wordEdges : Bool := false
  deriving DecidableEq

namespace State

/-- The pattern with one more piece in its innermost group. -/
def add (state : State) (piece : Piece) : State :=
  { state with inner := { state.inner with pieces := piece :: state.inner.pieces } }

/-- Adds an atom. -/
def addAtom (state : State) (atom : Atom) : Option State :=
  let flags := state.inner.flags
  if atom.isUsable flags then
    let edges := state.wordEdges || (atom == .wordEdge && flags.unicode)
    some { state.add { depth := 0 } with wordEdges := edges }
  else none

/-- Repeats the latest piece. -/
def repeatPiece (state : State) : Option State :=
  match state.inner.pieces with
  | piece :: pieces =>
      if piece.repeatable then
        let again := { piece with depth := piece.depth + 1 }
        some { state with inner := { state.inner with pieces := again :: pieces } }
      else none
  | [] => none

/-- Begins another alternative of the innermost group. -/
def alternate (state : State) : State :=
  let inner := state.inner
  let finished := sideBySide (inner.pieces.map Piece.depth)
  { state with
    inner := { inner with alternatives := finished :: inner.alternatives, pieces := [] } }

/-- Begins a group in which the given flags are in force. -/
def enter (state : State) (flags : Flags) : State :=
  { state with inner := { flags := flags }, outer := state.inner :: state.outer }

/-- Opens a group, or changes the flags of the innermost one. -/
def enact (state : State) : Opening → Option State
  | .plain => some (state.enter state.inner.flags)
  | .named name =>
      if state.names.contains name then none
      else some { state.enter state.inner.flags with names := name :: state.names }
  | .flagged .group flags => some (state.enter flags)
  | .flagged .rest flags =>
      let changed := { state with inner := { state.inner with flags := flags } }
      some (changed.add { depth := 0, repeatable := false })

/-- Ends the innermost group, which becomes a piece of the group around it. -/
def leave (state : State) : Option State :=
  match state.outer with
  | [] => none
  | level :: outer =>
      some ({ state with inner := level, outer := outer }.add { depth := state.inner.depth + 1 })

/-- Reads on at a character: the pattern afterwards, and the text behind what was
read. -/
def step (state : State) (c : Char) (rest : List Char) : Option (State × List Char) := do
  let flags := state.inner.flags
  match c with
  | '(' =>
      let (opening, rest) ← readOpening flags rest
      return (← state.enact opening, rest)
  | ')' => return (← state.leave, rest)
  | '|' => return (state.alternate, rest)
  | '[' =>
      let (depth, rest) ← readSet flags 0 {} rest
      return (state.add { depth := depth }, rest)
  | '?' | '*' | '+' =>
      return (← state.repeatPiece, if rest.head? == some '?' then rest.tail else rest)
  | '{' => none
  | '\\' =>
      let (atom, rest) ← readEscape flags rest
      return (← state.addAtom atom, rest)
  | '.' => return (← state.addAtom .dot, rest)
  | '^' | '$' => return (← state.addAtom .anchor, rest)
  | _ => return (← state.addAtom (.letter ⟨c, false⟩), rest)

end State

/-- Reads a pattern. The first `passed` characters were read already. -/
def readFrom : (passed : Nat) → State → List Char → Option State
  | _, state, [] => some state
  | passed + 1, state, _ :: rest => readFrom passed state rest
  | 0, state, c :: rest =>
      let left := skipBlanks state.inner.flags (c :: rest)
      if left.length < (c :: rest).length then readFrom (rest.length - left.length) state rest
      else
        match state.step c rest with
        | none => none
        | some (next, left) => readFrom (rest.length - left.length) next rest

/-- Patterns that are nested more deeply than this are refused. -/
def depthLimit : Nat := 250

/-- Accepts a pattern that can be used. -/
def check (text : List Char) : Except Fault Unit :=
  match readFrom 0 {} text with
  | none => .error .unreadable
  | some state =>
      if !state.outer.isEmpty || depthLimit < state.inner.depth then .error .unreadable
      else if state.wordEdges then .error .wordEdges
      else .ok ()

end StoreTrial.Pattern
