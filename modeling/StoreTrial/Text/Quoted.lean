import StoreTrial.Text.Extender
import StoreTrial.Text.Unprintable

/-! # Quoted text

Text between quotation marks, with an escape for every character that would be
mistaken for something else: the quotation mark, the backslash, characters that
show nothing, and characters that would join the one before them.
-/

namespace StoreTrial.Text

/-- A code point in lower-case hexadecimal, in braces after `\u`. -/
def escapeCode (c : Char) : List Char :=
  ['\\', 'u', '{'] ++ Nat.toDigits 16 c.toNat ++ ['}']

/-- How one character is written between quotation marks. -/
def quoteChar (c : Char) : List Char :=
  if c == '"' then ['\\', '"']
  else if c == '\\' then ['\\', '\\']
  else if c.toNat == 0 then ['\\', '0']
  else if c == '\t' then ['\\', 't']
  else if c == '\n' then ['\\', 'n']
  else if c == '\r' then ['\\', 'r']
  else if isExtender c || isUnprintable c then escapeCode c
  else [c]

/-- The text in quotation marks. -/
def quote (text : String) : String :=
  String.ofList ('"' :: text.toList.flatMap quoteChar ++ ['"'])

end StoreTrial.Text
