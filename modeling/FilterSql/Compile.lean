/-
# FilterSql.Compile -- from query parameters to a statement

The whole way: the dialect is looked up, the table checked, the parameters read and the statement
written. The first of these that fails decides the error, so a dialect that is not known wins over a
bad table, and a bad table over anything in the parameters.
-/

import FilterSql.Dialect
import FilterSql.Query.OfParams
import FilterSql.Statement

namespace FilterSql

/-- Compiles a query on a table for a dialect. -/
def Dialect.compile (dialect : Dialect) (table : Text) (p : Params) :
    Except QueryError Compiled := do
  let table ← checkIdentifier table
  let q ← Query.ofParams p
  return (Statement.ofQuery dialect.capabilities table q).compiled

/-- A statement comes out when the table is an identifier and the parameters ask for a query. -/
theorem Dialect.compile_eq_ok_iff {dialect : Dialect} {table : Text} {p : Params} {c : Compiled} :
    dialect.compile table p = .ok c ↔
      isIdentifier table = true ∧ ∃ q, Query.ofParams p = .ok q ∧
        c = (Statement.ofQuery dialect.capabilities table q).compiled := by
  unfold compile checkIdentifier
  by_cases valid : isIdentifier table = true
  · rw [if_pos valid]
    cases Query.ofParams p with
    | error e => exact ⟨(fun h => by cases h), fun ⟨_, q, h, _⟩ => by cases h⟩
    | ok q => exact ⟨fun h => ⟨valid, q, rfl, (Except.ok.inj h).symm⟩,
        fun ⟨_, _, h, e⟩ => by cases h; exact congrArg Except.ok e.symm⟩
  · rw [if_neg valid]
    exact ⟨(fun h => by cases h), fun h => absurd h.1 valid⟩

/-- A bad table is reported before anything in the parameters. -/
theorem Dialect.compile_eq_error_iff {dialect : Dialect} {table : Text} {p : Params}
    {e : QueryError} :
    dialect.compile table p = .error e ↔
      isIdentifier table = false ∧ e = .invalidIdentifier table ∨
        isIdentifier table = true ∧ Query.ofParams p = .error e := by
  unfold compile checkIdentifier
  by_cases valid : isIdentifier table = true
  · rw [if_pos valid]
    cases Query.ofParams p with
    | error f => simp [valid, bind, Except.bind]
    | ok q => simp [valid, bind, Except.bind, pure, Except.pure]
  · rw [if_neg valid]
    simp [valid, bind, Except.bind, eq_comm]

/-- Compiles a query on a table for the dialect that answers to a name. -/
def compile (table : Text) (p : Params) (dialectName : Text) : Except QueryError Compiled := do
  let dialect ← Dialect.ofName dialectName
  dialect.compile table p

end FilterSql
