/-! # Flags of patterns

How the characters of a pattern are understood. A pattern changes its flags for
the rest of a group or for one group.
-/

namespace StoreTrial.Pattern

/-- The flags that bear on whether a pattern can be used. -/
structure Flags where
  /-- A letter stands for both of its cases. -/
  ignoresCase : Bool := false
  /-- Characters are those of Unicode, and not bytes. -/
  unicode : Bool := true
  /-- Blanks and comments count for nothing. -/
  verbose : Bool := false
  deriving DecidableEq

namespace Flags

/-- The letters of all flags. -/
def letters : List Char := ['i', 'm', 's', 'U', 'u', 'R', 'x']

/-- The flags after the one with a letter is set or cleared. -/
def change (flags : Flags) (letter : Char) (value : Bool) : Flags :=
  match letter with
  | 'i' => { flags with ignoresCase := value }
  | 'u' => { flags with unicode := value }
  | 'x' => { flags with verbose := value }
  | _ => flags

end Flags

/-- What the flags in parentheses are meant for. -/
inductive Scope where
  /-- For the rest of the group that they stand in. -/
  | rest
  /-- For the group that they open. -/
  | group
  deriving DecidableEq

/-- Reads changes of flags up to the mark that ends them: letters to set, and behind
a dash letters to clear. No letter comes twice, a dash has letters behind it, and
flags for the rest of a group name at least one. The marks read so far are held in
reverse. -/
def readFlags : Flags → (seen : List Char) → List Char → Option (Flags × Scope × List Char)
  | _, _, [] => none
  | flags, seen, c :: rest =>
      if c == ':' || c == ')' then
        if seen.head? == some '-' || (c == ')' && seen.isEmpty) then none
        else some (flags, if c == ')' then .rest else .group, rest)
      else if seen.contains c then none
      else if c == '-' then readFlags flags (c :: seen) rest
      else if Flags.letters.contains c then
        readFlags (flags.change c (!seen.contains '-')) (c :: seen) rest
      else none

end StoreTrial.Pattern
