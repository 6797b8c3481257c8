import StoreTrial.Bytes.Basic
import StoreTrial.Text.Numeral

/-! # Keys from numbers

Keys that are written for a number, with zeros in front so that keys of one kind
sort as their numbers do, and the change that tells two equal keys apart.
-/

namespace StoreTrial.Key

/-- The digits of a number with zeros in front up to a least width. -/
def digits (width number : Nat) : Bytes := Bytes.ofChars (Text.padded width number)

/-- The least number of digits in a sequential key. -/
def sequentialWidth : Nat := 6

/-- The key of a number behind a common beginning. -/
def sequential (stem : String) (index : Nat) : Bytes :=
  Bytes.ofText stem ++ digits sequentialWidth index

/-- The keys of the first numbers, in ascending order. -/
def sequentialKeys (stem : String) (count : Nat) : List Bytes :=
  (List.range count).map (sequential stem)

/-- The least number of digits in the key of a unit of work or of an insertion. -/
def unitWidth : Nat := 12

/-- The key of a unit of work of a worker. -/
def unit (worker index : Nat) : Bytes :=
  Bytes.ofText "w" ++ digits 3 worker ++ Bytes.ofText "-" ++ digits unitWidth index

/-- The key that an iteration inserts. -/
def insertion (iteration : Nat) : Bytes := Bytes.ofText "new-" ++ digits unitWidth iteration

/-- A key with its end replaced by a number. The length stays when there is room
for the digits of the number. -/
def disambiguate (key : Bytes) (salt : Nat) : Bytes :=
  let ending := digits sequentialWidth salt
  key.take (key.length - ending.length) ++ ending

/-- Changes a key until it is free, with one number after another and at most as
many times as there is fuel. -/
def resolve (taken : Bytes → Bool) : (fuel salt : Nat) → Bytes → Bytes
  | 0, _, key => key
  | fuel + 1, salt, key =>
      if taken key then resolve taken fuel (salt + 1) (disambiguate key salt) else key

/-- A key that is free, made from a given one, when `index` keys are taken. Among
the first `2 * index + 1` changes more than `index` have endings of one width, so
one of them is free. -/
def free (taken : Bytes → Bool) (index : Nat) (key : Bytes) : Bytes :=
  resolve taken (2 * index + 1) index key

end StoreTrial.Key
