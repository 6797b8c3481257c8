/-! # Rates in binary64

Non-negative numbers rounded to the nearest binary floating-point number of 64
bits, a tie going to the even neighbour. Values are exact: a mantissa of at most
53 bits times a power of two.
-/

namespace StoreTrial

/-- The number `mantissa * 2 ^ exponent`. -/
structure Binary64 where
  mantissa : Nat
  exponent : Int
  deriving DecidableEq

namespace Binary64

/-- The quotient of two numbers rounded to a whole number, a tie to even. -/
def roundQuotient (numerator denominator : Nat) : Nat :=
  let quotient := numerator / denominator
  let twice := 2 * (numerator % denominator)
  if twice < denominator || (twice == denominator && quotient % 2 == 0) then quotient
  else quotient + 1

/-- The quotient times `2 ^ (-exponent)`, as numerator and denominator. -/
def scale (numerator denominator : Nat) (exponent : Int) : Nat × Nat :=
  if exponent < 0 then (numerator <<< (-exponent).toNat, denominator)
  else (numerator, denominator <<< exponent.toNat)

/-- The exponent at which the quotient has 53 bits before the point, or the
least exponent of the format when that is larger. -/
def exponentOf (numerator denominator : Nat) : Int :=
  let guess := (numerator.log2 : Int) - denominator.log2 - 52
  let (scaled, unit) := scale numerator denominator guess
  max (if scaled < unit <<< 52 then guess - 1 else guess) (-1074)

/-- The number nearest to a quotient. -/
def ofQuotient (numerator denominator : Nat) : Binary64 :=
  let exponent := exponentOf numerator denominator
  let (scaled, unit) := scale numerator denominator exponent
  ⟨roundQuotient scaled unit, exponent⟩

/-- The number nearest to a whole number. -/
def ofNat (number : Nat) : Binary64 := ofQuotient number 1

/-- The value as numerator and denominator. -/
def quotient (x : Binary64) : Nat × Nat := scale x.mantissa 1 (-x.exponent)

/-- Whether the value is zero. -/
def isZero (x : Binary64) : Bool := x.mantissa == 0

/-- The number nearest to the sum. -/
def add (x y : Binary64) : Binary64 :=
  let (a, b) := x.quotient
  let (c, d) := y.quotient
  ofQuotient (a * d + c * b) (b * d)

/-- The number nearest to the ratio; the divisor is not zero. -/
def div (x y : Binary64) : Binary64 :=
  let (a, b) := x.quotient
  let (c, d) := y.quotient
  ofQuotient (a * d) (b * c)

/-- The highest bit of a mantissa of 53 bits. -/
def leadingBit : Nat := 1 <<< 52

/-- The bits of a normal number, or of infinity when the exponent is too large. -/
def normalBits (mantissa : Nat) (exponent : Int) : Nat :=
  if exponent + 1075 < 2047 then ((exponent + 1075).toNat <<< 52) + (mantissa - leadingBit)
  else 2047 <<< 52

/-- The 64 bits of the number. -/
def bits (x : Binary64) : UInt64 :=
  (if x.mantissa < leadingBit then x.mantissa
  else if x.mantissa < 2 * leadingBit then normalBits x.mantissa x.exponent
  else normalBits (x.mantissa / 2) (x.exponent + 1)).toUInt64

end Binary64

end StoreTrial
