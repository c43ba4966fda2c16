/-
# FilterSql.Compiled.Json -- a compiled query as JSON

One object with the text and the list of values, indented by two spaces, every value on a line of
its own and an empty list on none. Inside strings the quotation mark, the backslash and the controls
below U+0020 are escaped, and nothing else.
-/

import FilterSql.Statement

namespace FilterSql

namespace Json

/-- A control character by number, with two lower-case hexadecimal digits. -/
def numbered (c : Char) : Text :=
  "\\u00" ++ [Nat.digitChar (c.toNat / 16), Nat.digitChar (c.toNat % 16)]

/-- A character inside a string. -/
def escaped (c : Char) : Text :=
  if c = '"' then ['\\', '"']
  else if c = '\\' then ['\\', '\\']
  else if c = '\x08' then ['\\', 'b']
  else if c = '\t' then ['\\', 't']
  else if c = '\n' then ['\\', 'n']
  else if c = '\x0c' then ['\\', 'f']
  else if c = '\r' then ['\\', 'r']
  else if c.toNat < 0x20 then numbered c
  else [c]

/-- A string. -/
def string (s : Text) : Text := '"' :: (s.flatMap escaped ++ ['"'])

/-- A list of strings, inside an object. -/
def strings : List Text → Text
  | [] => "[]"
  | s :: rest =>
    "[\n    " ++ ",\n    ".toList.intercalate ((s :: rest).map string) ++ "\n  ]"

end Json

/-- A compiled query as JSON, without a line break at the end. -/
def Compiled.toJson (c : Compiled) : Text :=
  "\x7b\n  \"sql\": " ++ Json.string c.sql ++ ",\n  \"bindings\": " ++ Json.strings c.bindings ++
    "\n\x7d"

end FilterSql
