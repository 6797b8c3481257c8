/-! # Range tables

A character property given as ascending ranges of code points.
-/

namespace StoreTrial.Text

/-- Ranges of code points, both ends included, in ascending order. -/
abbrev RangeTable := List (Nat × Nat)

/-- Whether a code point lies in one of the ranges. The search stops at the
first range that starts above it. -/
def RangeTable.covers : RangeTable → Nat → Bool
  | [], _ => false
  | (first, last) :: rest, code =>
      if code < first then false
      else if code ≤ last then true
      else RangeTable.covers rest code

end StoreTrial.Text
