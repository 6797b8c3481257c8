import StoreTrial.Pattern.Flags
import StoreTrial.Text.Blank

/-! # Atoms of patterns

The parts of a pattern that have no parts of their own: characters, written as they
are or with an escape, and marks that stand for a class of characters or for a
place. An atom can be used or not, depending on the flags: there are no tables of
the cases, the properties and the classes of Unicode characters, and no atom may
match a part of a character.
-/

namespace StoreTrial.Pattern

/-- The text behind blanks and comments. A comment begins with a number sign and
ends with its line. -/
def passBlanks : (inComment : Bool) → List Char → List Char
  | _, [] => []
  | true, c :: rest => passBlanks (c != '\n') rest
  | false, c :: rest =>
      if c == '#' then passBlanks true rest
      else if Text.isBlank c then passBlanks false rest
      else c :: rest

/-- The text behind what counts for nothing under the given flags. -/
def skipBlanks (flags : Flags) (text : List Char) : List Char :=
  if flags.verbose then passBlanks false text else text

/-- A character that a pattern names. -/
structure Letter where
  char : Char
  /-- Written as the two hexadecimal digits of a byte. -/
  asByte : Bool := false
  deriving DecidableEq

/-- A part without parts. -/
inductive Atom where
  | letter (letter : Letter)
  /-- Any character of a line. -/
  | dot
  /-- The beginning or the end of a line or of the text. -/
  | anchor
  /-- The beginning or the end of a word, or a place that is neither. -/
  | wordEdge
  /-- The digits, the blanks or the characters of words, or all the others. -/
  | shorthand (negated : Bool)
  deriving DecidableEq

/-- The value of a hexadecimal digit. -/
def hexValue? (c : Char) : Option Nat :=
  if c.isDigit then some (c.toNat - 48)
  else if 'a' ≤ c ∧ c ≤ 'f' then some (c.toNat - 87)
  else if 'A' ≤ c ∧ c ≤ 'F' then some (c.toNat - 55)
  else none

/-- Reads hexadecimal digits after the number read so far. -/
def readHex (flags : Flags) : (count value : Nat) → List Char → Option (Nat × List Char)
  | 0, value, text => some (value, text)
  | _ + 1, _, [] => none
  | count + 1, value, c :: rest => do
      readHex flags count (16 * value + (← hexValue? c)) (skipBlanks flags rest)

/-- Reads a character from the digits of its code point. -/
def readCode (flags : Flags) (count : Nat) (asByte : Bool) (text : List Char) :
    Option (Atom × List Char) := do
  let (value, rest) ← readHex flags count 0 (skipBlanks flags text)
  if value.isValidChar then some (.letter ⟨Char.ofNat value, asByte⟩, rest) else none

/-- The control characters that have a letter of their own. -/
def controls : List (Char × Nat) :=
  [('a', 7), ('t', 9), ('n', 10), ('v', 11), ('f', 12), ('r', 13)]

/-- Whether a character stands for itself behind a backslash: every sign of ASCII
does that stands for nothing else. -/
def isSign (c : Char) : Bool := c.toNat < 128 && !c.isAlphanum

/-- Reads what stands behind a backslash. -/
def readEscape (flags : Flags) : List Char → Option (Atom × List Char)
  | [] => none
  | c :: rest =>
      match c with
      | 'x' => readCode flags 2 true rest
      | 'u' => readCode flags 4 false rest
      | 'U' => readCode flags 8 false rest
      | 'd' | 's' | 'w' => some (.shorthand false, rest)
      | 'D' | 'S' | 'W' => some (.shorthand true, rest)
      | 'A' | 'z' => some (.anchor, rest)
      | 'b' | 'B' | '<' | '>' => some (.wordEdge, rest)
      | _ =>
          match controls.lookup c with
          | some code => some (.letter ⟨Char.ofNat code, false⟩, rest)
          | none => if isSign c then some (.letter ⟨c, false⟩, rest) else none

/-- The greatest code point of ASCII. -/
def maxAscii : Nat := 127

/-- Whether an atom can be used outside sets. -/
def Atom.isUsable (flags : Flags) : Atom → Bool
  | letter written =>
      if flags.unicode then !flags.ignoresCase
      else !written.asByte || written.char.toNat ≤ maxAscii
  | dot => flags.unicode
  | anchor | wordEdge => true
  | shorthand negated => !flags.unicode && !negated

/-- Whether an atom can be used as a member of a set. -/
def Atom.isMember (flags : Flags) : Atom → Bool
  | letter written =>
      if flags.unicode then !flags.ignoresCase else written.char.toNat ≤ maxAscii
  | shorthand negated => !flags.unicode && !negated
  | dot | anchor | wordEdge => false

end StoreTrial.Pattern
