import DeskPlan.Text.CharRange
import DeskPlan.Text.PrintableTable

/-!
# `DeskPlan.Text.Quoted`: texts in quotes inside messages

A message that shows a text puts it in double quotes. A quote, a backslash and the characters
without a visible form are written as escapes, so that the text can be read off the message.
-/

set_option autoImplicit false

namespace DeskPlan.Text

/-- The lower-case hexadecimal digits of a number, without leading zeros. -/
def hexDigits (n : Nat) : List Char := Nat.toDigits 16 n

/-- A character inside a quoted text. -/
def quoteChar (c : Char) : List Char :=
  if c = '"' then ['\\', '"']
  else if c = '\\' then ['\\', '\\']
  else if c = '\n' then ['\\', 'n']
  else if c = '\r' then ['\\', 'r']
  else if c = '\t' then ['\\', 't']
  else if c.toNat = 0 then ['\\', '0']
  else if c.toNat < 32 || c.toNat = 127 ||
      (127 < c.toNat && (inRanges unprintableRanges c.toNat || inRanges combiningRanges c.toNat))
  then ['\\', 'u', '\x7b'] ++ hexDigits c.toNat ++ ['\x7d']
  else [c]

/-- A text in double quotes. -/
def quoted (s : String) : String :=
  String.ofList ('"' :: (s.toList.flatMap quoteChar ++ ['"']))

end DeskPlan.Text
