import StoreTrial.Bytes.Repaired
import StoreTrial.Failure.Basic

/-! # Variables of an environment

What a process finds in its environment: byte strings under names. A zero byte would
end a name or a value and an equals sign would end a name, so that neither can be set
with such a thing in it. A value that is no text counts as not set.
-/

namespace StoreTrial.Environment

/-- The text of a value, when it is one. -/
def text? (value : Bytes) : Option String := String.fromUTF8? ⟨value.toArray⟩

/-- How a character is written between quotation marks that was read from the given
bytes. Bytes that are no character are written one by one. -/
def quoteTaken (c : Char) (taken : Bytes) : List Char :=
  if Bytes.ofText (String.singleton c) == taken then Text.quoteChar c
  else taken.flatMap fun byte => ['\\', 'x'] ++ (Bytes.hex [byte]).toList.map Char.toUpper

/-- The characters of a value between quotation marks. -/
def quoteFrom : Bytes → List Char
  | [] => []
  | byte :: rest =>
      quoteTaken (Bytes.readChar byte rest).1
          ((byte :: rest).take (rest.length + 1 - (Bytes.readChar byte rest).2.length)) ++
        quoteFrom (Bytes.readChar byte rest).2
  termination_by value => value.length
  decreasing_by exact Nat.lt_succ_of_le (Bytes.length_readChar_le byte rest)

/-- A value in quotation marks. -/
def quote (value : Bytes) : String := String.ofList ('"' :: quoteFrom value ++ ['"'])

/-- Why a variable cannot be set to a value, when it cannot. -/
def fault? (variableName : String) (value : Bytes) : Option DiskFault :=
  if (Bytes.ofText variableName).contains 0 || value.contains 0 then some .nulInPath
  else if variableName.isEmpty || variableName.toList.contains '=' then some .invalid
  else none

/-- What is said when a variable cannot be set to a value. -/
def refusal? (variableName : String) (value : Bytes) : Option String :=
  (fault? variableName value).map fun fault =>
    "failed to set environment variable `" ++ Text.quote variableName ++ "` to `" ++
      quote value ++ "`: " ++ fault.message

end StoreTrial.Environment
