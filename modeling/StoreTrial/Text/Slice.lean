import StoreTrial.Text.Quoted

/-! # Slices by bytes

Parts of a text between two positions that count its bytes in UTF-8. A position
inside a character cuts nothing.
-/

namespace StoreTrial.Text

/-- The ends of a slice. -/
inductive SliceEnd where
  | start
  | stop
  deriving DecidableEq

/-- A position inside a character, which begins at `first`. -/
structure SliceFault where
  side : SliceEnd
  position : Nat
  char : Char
  first : Nat
  deriving DecidableEq

/-- The word for an end of a slice. -/
def SliceEnd.label : SliceEnd → String
  | .start => "start"
  | .stop => "end"

/-- A character of more than one byte between single quotation marks. -/
def quoteSingle (c : Char) : String := "'" ++ String.ofList (quoteChar c) ++ "'"

/-- The explanation of a fault. -/
def SliceFault.message (fault : SliceFault) : String :=
  fault.side.label ++ " byte index " ++ toString fault.position ++
    " is not a char boundary; it is inside " ++ quoteSingle fault.char ++ " (bytes " ++
    toString fault.first ++ ".." ++ toString (fault.first + fault.char.utf8Size) ++ " of string)"

/-- The character that a position is inside of, and where it begins. The text starts
at the position `first`. -/
def straddled (first position : Nat) : List Char → Option (Char × Nat)
  | [] => none
  | c :: rest =>
      if position ≤ first then none
      else if position < first + c.utf8Size then some (c, first)
      else straddled (first + c.utf8Size) position rest

/-- Accepts a position between two characters. -/
def requireBoundary (side : SliceEnd) (position : Nat) (text : List Char) :
    Except SliceFault Unit :=
  match straddled 0 position text with
  | some (c, first) => .error ⟨side, position, c, first⟩
  | none => .ok ()

/-- The characters between two positions. The text starts at the position `first`. -/
def charsBetween (first start stop : Nat) : List Char → List Char
  | [] => []
  | c :: rest =>
      let others := charsBetween (first + c.utf8Size) start stop rest
      if start ≤ first ∧ first < stop then c :: others else others

/-- The part of a text between two positions. -/
def slice (text : List Char) (start stop : Nat) : Except SliceFault (List Char) := do
  requireBoundary .start start text
  requireBoundary .stop stop text
  return charsBetween 0 start stop text

/-- The part of a text from a position on. -/
def sliceFrom (text : List Char) (start : Nat) : Except SliceFault (List Char) := do
  requireBoundary .start start text
  return charsBetween 0 start (String.ofList text).utf8ByteSize text

end StoreTrial.Text
