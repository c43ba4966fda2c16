/-
# FilterSql.Predicate -- what a condition on a column says

A predicate compares one column with an operand by one of nine operators. A condition is a predicate
or a group of predicates under one combinator; groups do not nest.

These are plain data. Nothing here demands that a column be an identifier, that `in` come with a
list, or that a group have members: the reader of query parameters sees to that, and the writer of
SQL text answers for every value of these types.
-/

import FilterSql.Text.Split

namespace FilterSql

/-! ## Operators -/

/-- How a column is compared with an operand. -/
inductive Operator where
  /-- Equal. -/
  | eq
  /-- Not equal. -/
  | neq
  /-- Greater. -/
  | gt
  /-- Greater or equal. -/
  | gte
  /-- Less. -/
  | lt
  /-- Less or equal. -/
  | lte
  /-- Matches a pattern. -/
  | like
  /-- Matches a pattern, letter case ignored. -/
  | ilike
  /-- Is one of a list. -/
  | isIn
  deriving DecidableEq

namespace Operator

/-- Every operator. -/
def all : List Operator := [eq, neq, gt, gte, lt, lte, like, ilike, isIn]

/-- The name in a query string. -/
def name : Operator → Text
  | eq => "eq"
  | neq => "neq"
  | gt => "gt"
  | gte => "gte"
  | lt => "lt"
  | lte => "lte"
  | like => "like"
  | ilike => "ilike"
  | isIn => "in"

/-- The operator of a name. Letter case counts, and no blank is ignored. -/
def ofName? (s : Text) : Option Operator := all.find? fun operator => operator.name = s

/-- No name has a dot in it, so a dot ends it. -/
theorem dot_not_mem_name (operator : Operator) : '.' ∉ operator.name := by
  cases operator <;> decide

theorem ofName?_name (operator : Operator) : ofName? operator.name = some operator := by
  cases operator <;> decide

theorem ofName?_eq_some_iff {s : Text} {operator : Operator} :
    ofName? s = some operator ↔ s = operator.name := by
  constructor
  · intro h
    unfold ofName? at h
    have found := List.find?_some h
    exact (of_decide_eq_true found).symm
  · rintro rfl
    exact ofName?_name operator

end Operator

/-! ## Operands -/

/-- What a column is compared with. -/
inductive Operand where
  /-- One literal. -/
  | single (literal : Text)
  /-- Several literals. -/
  | list (items : List Text)
  deriving DecidableEq

namespace Operand

/-- Every literal in order. -/
def items : Operand → List Text
  | single literal => [literal]
  | list items => items

/-- The operand as one literal; several are joined by commas. -/
def literal : Operand → Text
  | single literal => literal
  | list items => [','].intercalate items

/-- The operand that a text writes for an operator: the items of a list, parentheses around it or
not, and otherwise the text as it stands. A list without items is no operand. -/
def ofText? (operator : Operator) (s : Text) : Option Operand :=
  if operator = .isIn then
    match Text.items (Text.unwrap (Text.trim s)) with
    | [] => none
    | item :: rest => some (list (item :: rest))
  else some (single s)

end Operand

/-! ## Predicates and conditions -/

/-- A column compared with an operand. -/
structure Predicate where
  /-- The column. -/
  column : Text
  /-- The comparison. -/
  operator : Operator
  /-- What the column is compared with. -/
  operand : Operand
  deriving DecidableEq

/-- How the members of a group are combined. -/
inductive Combinator where
  /-- All members hold. -/
  | and
  /-- Some member holds. -/
  | or
  deriving DecidableEq

/-- The SQL keyword. -/
def Combinator.keyword : Combinator → Text
  | and => "AND"
  | or => "OR"

/-- Predicates under one combinator. -/
structure Group where
  /-- How the members are combined. -/
  combinator : Combinator
  /-- The members in order. -/
  members : List Predicate
  deriving DecidableEq

/-- One condition on the rows. -/
inductive Condition where
  /-- A single predicate. -/
  | predicate (p : Predicate)
  /-- A group. -/
  | group (g : Group)
  deriving DecidableEq

end FilterSql
