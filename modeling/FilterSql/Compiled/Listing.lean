/-
# FilterSql.Compiled.Listing -- a compiled query for reading

The text, an empty line, and then every value on a line of its own, numbered from one and between
quotation marks.
-/

import FilterSql.Statement
import FilterSql.Text.Quoted

namespace FilterSql

/-- The line of the value with a number. -/
def bindingLine (value : Text) (n : Nat) : Text :=
  "  $" ++ Nat.toDigits 10 n ++ " = " ++ Text.quoted value ++ "\n"

/-- A compiled query for reading. -/
def Compiled.listing (c : Compiled) : Text :=
  c.sql ++ "\n\n" ++ (c.bindings.zipIdx 1).flatMap fun numbered => bindingLine numbered.1 numbered.2

end FilterSql
