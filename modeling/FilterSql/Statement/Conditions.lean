/-
# FilterSql.Statement.Conditions -- conditions in SQL

A condition becomes a fragment whose holes are its literals. Predicates stand next to each other
under `AND`; a group always brings its parentheses along, so neighbours never reach into it.

Where a dialect cannot match patterns with letter case ignored, both sides are made lower case
first.
-/

import FilterSql.Dialect.Capabilities
import FilterSql.Fragment
import FilterSql.Predicate

namespace FilterSql

/-- The SQL symbol of a comparison with one literal. -/
def Operator.symbol : Operator → Text
  | eq => "="
  | neq => "<>"
  | gt => ">"
  | gte => ">="
  | lt => "<"
  | lte => "<="
  | like => "LIKE"
  | ilike => "ILIKE"
  | isIn => "IN"

/-- A predicate in SQL. `in` binds every item of its operand, any other operator binds the operand
as one literal. -/
def Predicate.fragment (caps : Capabilities) (p : Predicate) : Fragment :=
  let column := caps.quote p.column
  if p.operator = .isIn then
    Fragment.raw (column ++ " IN (")
      |>.append (Fragment.join ", " (p.operand.items.map Fragment.hole))
      |>.push ")"
  else if p.operator = .ilike ∧ caps.supportsIlike = false then
    Fragment.raw ("LOWER(" ++ column ++ ") LIKE LOWER(") |>.bind p.operand.literal |>.push ")"
  else
    Fragment.raw (column ++ " " ++ p.operator.symbol ++ " ") |>.bind p.operand.literal

/-- A group in SQL. -/
def Group.fragment (caps : Capabilities) (g : Group) : Fragment :=
  let separator := " " ++ g.combinator.keyword ++ " "
  Fragment.raw "("
    |>.append (Fragment.join separator (g.members.map (Predicate.fragment caps)))
    |>.push ")"

/-- A condition in SQL. -/
def Condition.fragment (caps : Capabilities) : Condition → Fragment
  | predicate p => p.fragment caps
  | group g => g.fragment caps

/-- The clause that a keyword opens with all of the conditions, none without conditions. -/
def conditionClause? (caps : Capabilities) (keyword : Text) (conditions : List Condition) :
    Option Fragment :=
  if conditions = [] then none
  else
    some (Fragment.raw (keyword ++ " ")
      |>.append (Fragment.join " AND " (conditions.map (Condition.fragment caps))))

/-- The clause on rows. -/
def whereClause? (caps : Capabilities) (conditions : List Condition) : Option Fragment :=
  conditionClause? caps "WHERE" conditions

/-- The clause on groups of rows. -/
def havingClause? (caps : Capabilities) (conditions : List Condition) : Option Fragment :=
  conditionClause? caps "HAVING" conditions

end FilterSql
