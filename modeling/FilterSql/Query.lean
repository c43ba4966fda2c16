/-
# FilterSql.Query -- what a query asks for

The parts of a query, independent of both the parameters they were read from and the dialect they
will be written in: which rows (conditions, joins), which columns, how grouped, in which order, and
which window of the rows.
-/

import FilterSql.Predicate
import FilterSql.Text.Count

namespace FilterSql

/-- A table joined on the equality of two or more operands. -/
structure Join where
  /-- The joined table. -/
  table : Text
  /-- The operands in order. -/
  operands : List Text
  deriving DecidableEq

/-- One entry of the select list. -/
inductive Projection where
  /-- All columns. -/
  | wildcard
  /-- A column, to be quoted. -/
  | column (name : Text)
  /-- An expression, to be written as it stands. -/
  | expression (text : Text)
  deriving DecidableEq

/-- A window of the rows: at most `limit` of them, from the one behind the first `offset`. -/
structure Window where
  /-- How many rows at most. -/
  limit : Option Count
  /-- How many rows to pass over. -/
  offset : Option Count
  deriving DecidableEq

/-- A sense of ordering. -/
inductive Direction where
  /-- Ascending. -/
  | asc
  /-- Descending. -/
  | desc
  deriving DecidableEq

/-- The SQL keyword. -/
def Direction.keyword : Direction → Text
  | asc => "ASC"
  | desc => "DESC"

/-- The column that the rows are ordered by. -/
structure SortKey where
  /-- The column. -/
  column : Text
  /-- The sense. -/
  direction : Direction
  deriving DecidableEq

/-- A query over one table. -/
structure Query where
  /-- The conditions on rows, all of which hold. -/
  conditions : List Condition
  /-- The joined tables in order. -/
  joins : List Join
  /-- The select list; all columns when it is empty. -/
  projection : List Projection
  /-- A wildcard in the select list stands for the whole list. -/
  exclude : Bool
  /-- The window of rows. -/
  window : Window
  /-- The ordering, if any. -/
  order : Option SortKey
  /-- The columns to group by. -/
  grouping : List Text
  /-- The conditions on groups of rows, all of which hold. -/
  having : List Condition
  deriving DecidableEq

end FilterSql
