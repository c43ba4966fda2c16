/-
# FilterSql.Statement -- a whole statement

A statement has its sections in a fixed order, one on a line: selection, joins, row conditions,
grouping, group conditions, ordering, window. Every section but the first may be missing. Because
the bindings of a statement are those of its sections in order, the n-th value belongs to the n-th
question mark.
-/

import FilterSql.Statement.Conditions
import FilterSql.Statement.Lines
import FilterSql.Statement.Window

namespace FilterSql

/-- The sections of a statement. -/
structure Statement where
  /-- What is selected from which table. -/
  selection : Text
  /-- The joined tables. -/
  joins : List Text
  /-- The conditions on rows. -/
  rows : Option Fragment
  /-- The grouping. -/
  grouping : Option Text
  /-- The conditions on groups of rows. -/
  groups : Option Fragment
  /-- The ordering. -/
  ordering : Option Text
  /-- The window of rows. -/
  window : Option Text
  deriving DecidableEq

/-- SQL text with one value for each of its question marks. -/
structure Compiled where
  /-- The text. -/
  sql : Text
  /-- The values in order. -/
  bindings : List Text
  deriving DecidableEq

/-- How many question marks the text has. -/
def Compiled.placeholders (c : Compiled) : Nat := c.sql.count '?'

namespace Statement

/-- The statement of a query on a table. -/
def ofQuery (caps : Capabilities) (table : Text) (q : Query) : Statement :=
  let placement := q.window.placement caps
  { selection :=
      selectPart caps q.projection q.exclude placement.top ++ " " ++ fromPart caps table
    joins := q.joins.map (Join.toSql caps)
    rows := whereClause? caps q.conditions
    grouping := groupingLine? caps q.grouping
    groups := havingClause? caps q.having
    ordering := orderingLine? caps q.order placement.needsOrder
    window := placement.suffix }

/-- The sections in order. -/
def sections (s : Statement) : List Fragment :=
  [Fragment.raw s.selection] ++ s.joins.map Fragment.raw ++ s.rows.toList ++
    (s.grouping.map Fragment.raw).toList ++ s.groups.toList ++
    (s.ordering.map Fragment.raw).toList ++ (s.window.map Fragment.raw).toList

/-- The sections that have text, one on a line. -/
def fragment (s : Statement) : Fragment :=
  Fragment.join ['\n'] (s.sections.filter fun line => !line.isBlank)

/-- The text and the values of the statement. -/
def compiled (s : Statement) : Compiled :=
  { sql := Text.trim s.fragment.sql, bindings := s.fragment.bindings }

end Statement

end FilterSql
