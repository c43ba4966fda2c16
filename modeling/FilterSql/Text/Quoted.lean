/-
# FilterSql.Text.Quoted -- texts between quotation marks

How messages and console lines show a text that came from outside: between quotation marks, with a
backslash before quotation marks and backslashes, short escapes for the commonest controls, and the
number of every character that would not show or would alter the character before it. The result is
one printable line whatever the text holds.
-/

import FilterSql.Text.Basic
import FilterSql.Text.Extending
import FilterSql.Text.Unprintable

namespace FilterSql

namespace Text

/-- A character by number: lower-case hexadecimal without leading zeros between braces. -/
def numbered (c : Char) : Text := '\\' :: 'u' :: '\x7b' :: (Nat.toDigits 16 c.toNat ++ ['\x7d'])

/-- A character as it stands between quotation marks. -/
def quotedChar (c : Char) : Text :=
  if c = '"' then ['\\', '"']
  else if c = '\\' then ['\\', '\\']
  else if c = '\n' then ['\\', 'n']
  else if c = '\r' then ['\\', 'r']
  else if c = '\t' then ['\\', 't']
  else if c = '\x00' then ['\\', '0']
  else if isExtending c || isUnprintable c then numbered c
  else [c]

/-- The text between quotation marks, escaped character by character. -/
def quoted (s : Text) : Text := '"' :: (s.flatMap quotedChar ++ ['"'])

end Text

end FilterSql
