/-
# FilterSql.Query.Items -- judging the items of a query string

One function for each kind of item that a parameter value lists: a filter, a term of a group, a
join, an entry of the select list, a count, a sort key, a column to group by. The order of the tests
inside each is part of its meaning. An operator that is not known or a list without items makes a
predicate ignored before anyone looks at its column, and a join is ignored for a missing operand
before its table is checked.
-/

import FilterSql.Expression
import FilterSql.Query
import FilterSql.Verdict

namespace FilterSql

/-! ## Predicates -/

/-- A predicate from its column, the name of its operator and the text of its operand. -/
def Predicate.judge (column operator value : Text) : Verdict Predicate :=
  match Operator.ofName? operator with
  | none => .skipped (.unknownOperator column operator)
  | some known =>
    match Operand.ofText? known value with
    | none => .skipped (.emptyList column value)
    | some operand =>
      (Verdict.ofExcept (checkIdentifier column)).map fun name => ⟨name, known, operand⟩

/-- A filter value, `operator.operand`, on a column. Only the first dot separates. -/
def Predicate.judgeFilter (column value : Text) : Verdict Predicate :=
  match cut? ['.'] value with
  | none => .skipped (.filterWithoutOperator column value)
  | some (operator, operand) => Predicate.judge column operator operand

/-- A term of a group, `column.operator.operand`. Only the first two dots separate. -/
def Predicate.judgeTerm (term : Text) : Verdict Predicate :=
  match cut? ['.'] term with
  | none => .skipped (.termWithoutOperator term)
  | some (column, value) =>
    match cut? ['.'] value with
    | none => .skipped (.termWithoutValue term)
    | some (operator, operand) => Predicate.judge column operator operand

/-! ## Joins -/

/-- What stands between the table of a join and its operands. -/
def Join.onMark : Text := ":on="

/-- A join, `table:on=operand=operand`, with at least two operands and none of them blank. -/
def Join.judge (value : Text) : Verdict Join :=
  match cut? Join.onMark value with
  | none => .skipped (.joinWithoutOn value)
  | some (table, on) =>
    let operands := (on.splitOn '=').map Text.trim
    if operands.length < 2 ∨ [] ∈ operands then .skipped (.joinIncomplete value)
    else
      match (Text.trim table :: operands).find? fun name => !isIdentifier name with
      | some name => .refused (.invalidIdentifier name)
      | none => .kept ⟨Text.trim table, operands⟩

/-! ## Select list, counts, order and grouping -/

/-- Is an entry of the select list an expression? It is when it is qualified, when it has a
parenthesis, and when it has the alias keyword between two spaces. -/
def Projection.isPassthrough (piece : Text) : Bool :=
  piece.contains '.' || piece.contains '(' || piece.contains ')' ||
    Text.mentions " as " (Text.lower piece)

/-- An entry of the select list. -/
def Projection.judge (piece : Text) : Verdict Projection :=
  if piece = ['*'] then .kept .wildcard
  else if Projection.isPassthrough piece then
    (Verdict.ofExcept (checkExpression piece)).map .expression
  else (Verdict.ofExcept (checkIdentifier piece)).map .column

/-- A count given for a key, blanks around it ignored. -/
def Count.judge (key value : Text) : Verdict Count :=
  match Count.ofText? (Text.trim value) with
  | some n => .kept n
  | none => .skipped (.unparseableCount key value)

/-- A sort key. -/
def SortKey.judge (column : Text) (direction : Direction) : Verdict SortKey :=
  (Verdict.ofExcept (checkIdentifier column)).map fun c => ⟨c, direction⟩

end FilterSql
