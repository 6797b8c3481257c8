import StoreTrial.Pattern.Flags
import StoreTrial.Pattern.Atom
import StoreTrial.Text.Numeric

/-! # Groups of patterns

What stands behind an opening parenthesis: nothing, the name of the group, or flags
for it or for the rest of the group around it.
-/

namespace StoreTrial.Pattern

/-- What a parenthesis opens. -/
inductive Opening where
  | plain
  | named (name : List Char)
  | flagged (scope : Scope) (flags : Flags)
  deriving DecidableEq

/-- Whether a character may stand in the name of a group, as its first character or
behind others. -/
def isNameChar (first : Bool) (c : Char) : Bool :=
  if first then c == '_' || Text.isLetter c
  else c == '_' || c == '.' || c == '[' || c == ']' || Text.isWordlike c

/-- Reads a name up to the angle bracket that ends it. The characters read so far
are held in reverse. -/
def readName : (name : List Char) → List Char → Option (List Char × List Char)
  | _, [] => none
  | name, c :: rest =>
      if c == '>' then if name.isEmpty then none else some (name.reverse, rest)
      else if isNameChar name.isEmpty c then readName (c :: name) rest
      else none

/-- Reads what a parenthesis opens, from the text behind it. A group cannot look
ahead or behind. -/
def readOpening (flags : Flags) (text : List Char) : Option (Opening × List Char) :=
  match skipBlanks flags text with
  | '?' :: '=' :: _ | '?' :: '!' :: _ | '?' :: '<' :: '=' :: _ | '?' :: '<' :: '!' :: _ => none
  | '?' :: 'P' :: '<' :: rest | '?' :: '<' :: rest => do
      let (name, rest) ← readName [] rest
      return (.named name, rest)
  | '?' :: rest => do
      let (flags, scope, rest) ← readFlags flags [] rest
      return (.flagged scope flags, rest)
  | rest => some (.plain, rest)

end StoreTrial.Pattern
