/-! # Decimal numerals

Numbers written with a fixed least width, and the reading of bounded natural
numbers from text.
-/

namespace StoreTrial.Text

/-- The decimal digits of a number, with zeros in front up to a least width. -/
def padded (width number : Nat) : List Char :=
  let digits := Nat.toDigits 10 number
  List.replicate (width - digits.length) '0' ++ digits

/-- Why a text is not the numeral of a number below a bound. -/
inductive NumeralFault where
  | empty
  | invalidDigit
  | tooLarge
  deriving DecidableEq

/-- The explanation of a fault. -/
def NumeralFault.message : NumeralFault → String
  | .empty => "cannot parse integer from empty string"
  | .invalidDigit => "invalid digit found in string"
  | .tooLarge => "number too large to fit in target type"

/-- Reads digits after the number read so far. The first character that is no
digit, or that takes the number past the limit, decides the fault. -/
def readDigits (limit : Nat) : Nat → List Char → Except NumeralFault Nat
  | number, [] => .ok number
  | number, c :: rest =>
      if c.isDigit then
        let next := number * 10 + (c.toNat - '0'.toNat)
        if limit < next then .error .tooLarge else readDigits limit next rest
      else .error .invalidDigit

/-- Reads a number of at most `limit`: digits after at most one plus sign. -/
def readNumber (limit : Nat) : List Char → Except NumeralFault Nat
  | [] => .error .empty
  | ['+'] => .error .invalidDigit
  | '+' :: digits => readDigits limit 0 digits
  | digits => readDigits limit 0 digits

/-- The text behind at most one sign. -/
def dropSign (text : List Char) : List Char :=
  match text with
  | '+' :: rest | '-' :: rest => rest
  | _ => text

/-- Whether a text is an exponent, or nothing at all. -/
def isExponent (text : List Char) : Bool :=
  match text with
  | [] => true
  | mark :: rest =>
      let digits := dropSign rest
      mark.toLower == 'e' && !digits.isEmpty && digits.all Char.isDigit

/-- The names of the values that digits do not write. -/
def valueNames : List String := ["inf", "infinity", "nan"]

/-- Whether a text is the numeral of a decimal number: after at most one sign, digits
with at most one point among them and an exponent, or the name of a value. -/
def isDecimal (text : List Char) : Bool :=
  let unsigned := dropSign text
  let whole := unsigned.takeWhile Char.isDigit
  let rest := unsigned.dropWhile Char.isDigit
  let pointed := rest.head? == some '.'
  let fraction := if pointed then rest.tail.takeWhile Char.isDigit else []
  let ending := if pointed then rest.tail.dropWhile Char.isDigit else rest
  valueNames.any (fun name => name.toList == unsigned.map Char.toLower) ||
    (!(whole.isEmpty && fraction.isEmpty) && isExponent ending)

/-- The largest number of 64 bits. -/
def maxWord : Nat := UInt64.size - 1

end StoreTrial.Text
