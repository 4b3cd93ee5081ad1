/-
# Text quoted in messages

A message that shows a text puts it between quotation marks and spells what a
reader could not see: quotation marks and backslashes get a backslash, a few
control characters have names, and other unprintable characters are given by
number.
-/

import ApiDoc.Text.Unprintable

namespace ApiDoc.Text

/-- A character inside quotation marks. -/
def quotedChar (c : Char) : List Char :=
  if c = '"' then ['\\', '"']
  else if c = '\\' then ['\\', '\\']
  else if c.toNat = 0 then ['\\', '0']
  else if c = '\t' then ['\\', 't']
  else if c = '\n' then ['\\', 'n']
  else if c = '\r' then ['\\', 'r']
  else if c ≠ ' ' ∧ isUnprintable c then
    '\\' :: 'u' :: '\x7b' :: Nat.toDigits 16 c.toNat ++ ['\x7d']
  else [c]

/-- A text between quotation marks. -/
def quoted (s : String) : String :=
  String.ofList ('"' :: s.toList.flatMap quotedChar ++ ['"'])

end ApiDoc.Text
