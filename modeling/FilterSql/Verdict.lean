/-
# FilterSql.Verdict -- what becomes of one item of a query string

Every item that a parameter value lists is judged by itself: it is kept, or skipped for a reason
that is worth a line in the trace, or it refuses the whole query. A list of verdicts therefore
determines three things: the first refusal, if any; what was kept; and the reasons for skipping that
come to light before the first refusal.
-/

import FilterSql.Identifier

namespace FilterSql

/-! ## Reasons for skipping -/

/-- Why an item was skipped. -/
inductive Skip where
  /-- No operator goes by this name. -/
  | unknownOperator (column operator : Text)
  /-- A list of which nothing is left. -/
  | emptyList (column value : Text)
  /-- A group term without a dot. -/
  | termWithoutOperator (term : Text)
  /-- A group term with one dot only. -/
  | termWithoutValue (term : Text)
  /-- A join without the mark before its operands. -/
  | joinWithoutOn (value : Text)
  /-- A join with a missing operand. -/
  | joinIncomplete (value : Text)
  /-- A count that is no number of 64 bits. -/
  | unparseableCount (key value : Text)
  /-- A filter value without a dot. -/
  | filterWithoutOperator (column value : Text)
  deriving DecidableEq

namespace Skip

/-- The line in the trace. -/
def message : Skip → Text
  | unknownOperator _ _ => "skipping filter with unknown operator"
  | emptyList _ _ => "skipping empty in list"
  | termWithoutOperator _ => "skipping group term without operator"
  | termWithoutValue _ => "skipping group term without value"
  | joinWithoutOn _ => "skipping join without :on="
  | joinIncomplete _ => "skipping join with incomplete on expression"
  | unparseableCount _ _ => "skipping unparseable count"
  | filterWithoutOperator _ _ => "skipping filter without operator"

/-- The texts that the line names. -/
def fields : Skip → List (Text × Text)
  | unknownOperator column operator => [("column", column), ("operator", operator)]
  | emptyList column value => [("column", column), ("value", value)]
  | termWithoutOperator term => [("term", term)]
  | termWithoutValue term => [("term", term)]
  | joinWithoutOn value => [("value", value)]
  | joinIncomplete value => [("value", value)]
  | unparseableCount key value => [("key", key), ("value", value)]
  | filterWithoutOperator column value => [("column", column), ("value", value)]

end Skip

/-! ## Verdicts -/

/-- What becomes of one item. -/
inductive Verdict (α : Type) where
  /-- It is part of the query. -/
  | kept (a : α)
  /-- It is ignored. -/
  | skipped (reason : Skip)
  /-- It refuses the query. -/
  | refused (error : QueryError)
  deriving DecidableEq

namespace Verdict

variable {α β : Type}

/-- The same verdict on what the item gives rise to. -/
def map (f : α → β) : Verdict α → Verdict β
  | kept a => kept (f a)
  | skipped reason => skipped reason
  | refused error => refused error

/-- A checked item is kept or refuses the query. -/
def ofExcept : Except QueryError α → Verdict α
  | .ok a => kept a
  | .error error => refused error

/-- What was kept. -/
def kept? : Verdict α → Option α
  | kept a => some a
  | _ => none

/-- Why the query is refused. -/
def refusal? : Verdict α → Option QueryError
  | refused error => some error
  | _ => none

@[simp]
theorem refusal?_map (f : α → β) (v : Verdict α) : (v.map f).refusal? = v.refusal? := by
  cases v <;> rfl

/-- The first refusal among verdicts. -/
def refusalOf? (verdicts : List (Verdict α)) : Option QueryError := verdicts.findSome? refusal?

/-- What was kept among verdicts. -/
def keptOf (verdicts : List (Verdict α)) : List α := verdicts.filterMap kept?

/-- The reasons for skipping that stand before the first refusal. -/
def skipsOf : List (Verdict α) → List Skip
  | [] => []
  | kept _ :: rest => skipsOf rest
  | skipped reason :: rest => reason :: skipsOf rest
  | refused _ :: _ => []

theorem refusalOf?_append (first second : List (Verdict α)) :
    refusalOf? (first ++ second) = (refusalOf? first).or (refusalOf? second) := by
  simp [refusalOf?, List.findSome?_append]

theorem keptOf_append (first second : List (Verdict α)) :
    keptOf (first ++ second) = keptOf first ++ keptOf second := by
  simp [keptOf]

end Verdict

end FilterSql
