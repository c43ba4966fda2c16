/-
# FilterSql.Dialect.Capabilities -- what the syntax of an SQL dialect allows

A capability table says all that the writer of statements has to know about a dialect. The writer
asks nothing else, so it also serves tables that belong to none of the known dialects.

Names are quoted segment by segment: the dots stay outside the quotation marks, and a closing mark
inside a segment is doubled, so no name can end its own quotation.
-/

import FilterSql.Text.Basic

namespace FilterSql

/-- How a window of rows is written. -/
inductive WindowSyntax where
  /-- Written as `LIMIT n OFFSET m` at the end of the statement. -/
  | limitOffset
  /-- Written as `TOP n` in front of the select list, or as `OFFSET m ROWS FETCH NEXT n ROWS ONLY`
  at the end. -/
  | topFetch
  deriving DecidableEq

/-- A capability table. -/
structure Capabilities where
  /-- How a window of rows is written. -/
  window : WindowSyntax
  /-- An offset is allowed behind an ordering only. -/
  offsetNeedsOrder : Bool
  /-- What stands behind every table. -/
  lockHint : Option Text
  /-- The mark that opens a quoted name. -/
  openQuote : Char
  /-- The mark that closes a quoted name. -/
  closeQuote : Char
  /-- Patterns can be matched with letter case ignored. -/
  supportsIlike : Bool
  /-- The limit that stands for all rows, where an offset is not allowed without a limit. -/
  unboundedLimit : Option Text
  deriving DecidableEq

namespace Capabilities

/-- Is a window of rows written at the end of the statement in any case? -/
def usesLimitOffset (caps : Capabilities) : Bool := caps.window = .limitOffset

/-- Is a bare limit written in front of the select list? -/
def usesTopFetch (caps : Capabilities) : Bool := caps.window = .topFetch

/-- One segment of a name between quotation marks. -/
def quoteSegment (caps : Capabilities) (segment : Text) : Text :=
  let escape := fun c => if c = caps.closeQuote then [c, c] else [c]
  caps.openQuote :: (segment.flatMap escape ++ [caps.closeQuote])

/-- A quoted name, every segment between dots by itself. -/
def quote (caps : Capabilities) (name : Text) : Text :=
  ['.'].intercalate ((name.splitOn '.').map caps.quoteSegment)

/-- A quoted table with what stands behind every table. -/
def tableReference (caps : Capabilities) (table : Text) : Text :=
  match caps.lockHint with
  | some hint => caps.quote table ++ ' ' :: hint
  | none => caps.quote table

end Capabilities

end FilterSql
