/-
# FilterSql.Statement.Lines -- the lines of a statement that bind nothing

Select list, tables, grouping and ordering. Names are quoted here; select expressions and the
operands of a join stand as they are, so whoever builds a query answers for them.
-/

import FilterSql.Dialect.Capabilities
import FilterSql.Query

namespace FilterSql

/-- An entry of the select list in SQL. -/
def Projection.toSql (caps : Capabilities) : Projection → Text
  | wildcard => "*"
  | column name => caps.quote name
  | expression text => text

/-- The select list: a star for all columns, and for any list with a wildcard when the wildcard is
to stand for the whole list. -/
def selectList (caps : Capabilities) (projection : List Projection) (exclude : Bool) : Text :=
  if projection = [] ∨ (exclude ∧ .wildcard ∈ projection) then "*"
  else ", ".toList.intercalate (projection.map (Projection.toSql caps))

/-- The part `SELECT`, with the limit in front of the select list where there is one. -/
def selectPart (caps : Capabilities) (projection : List Projection) (exclude : Bool)
    (top : Option Count) : Text :=
  "SELECT " ++
    (match top with
    | some n => "TOP " ++ n.toText ++ " "
    | none => []) ++
    selectList caps projection exclude

/-- The part `FROM`. -/
def fromPart (caps : Capabilities) (table : Text) : Text := "FROM " ++ caps.tableReference table

/-- The line `JOIN`, its operands chained by equality. -/
def Join.toSql (caps : Capabilities) (j : Join) : Text :=
  "JOIN " ++ caps.tableReference j.table ++ " ON " ++ " = ".toList.intercalate j.operands

/-- The line `GROUP BY`, none without columns. -/
def groupingLine? (caps : Capabilities) (columns : List Text) : Option Text :=
  if columns = [] then none
  else some ("GROUP BY " ++ ", ".toList.intercalate (columns.map caps.quote))

/-- An ordering that orders nothing, for dialects that insist on one. -/
def noOrder : Text := "(SELECT NULL)"

/-- The line `ORDER BY`: the ordering asked for, else the one that orders nothing where one is
needed. -/
def orderingLine? (caps : Capabilities) (order : Option SortKey) (needed : Bool) : Option Text :=
  match order with
  | some key => some ("ORDER BY " ++ caps.quote key.column ++ " " ++ key.direction.keyword)
  | none => if needed then some ("ORDER BY " ++ noOrder) else none

end FilterSql
