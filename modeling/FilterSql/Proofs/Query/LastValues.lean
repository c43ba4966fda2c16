/-
# FilterSql.Proofs.Query.LastValues -- what the last value of a key decides

Limit, offset and ordering are read off the value that arrived last under their key. A last value
that is no count is as good as none, even behind one that is, and so is a last sort column that is
blank. A sort column that is neither blank nor an identifier refuses the query, so where parameters
ask for a query the ordering is there exactly when the last sort column is not blank.
-/

import FilterSql.Proofs.Query.Accepted
import FilterSql.Proofs.Query.WellFormed
import FilterSql.Proofs.Text.Ends

namespace FilterSql

namespace Params

variable {p : Params}

/-! ## Counts -/

/-- The count that the last value of a key writes. -/
def count? (p : Params) (key : Text) : Option Count :=
  (p.last? key).bind fun value => Count.ofText? (Text.trim value)

theorem keptOf_countVerdicts (p : Params) (key : Text) :
    Verdict.keptOf (p.countVerdicts key) = (p.count? key).toList := by
  unfold countVerdicts count?
  cases p.last? key with
  | none => rfl
  | some value =>
    simp only [Option.toList_some, List.map_singleton, Option.bind_some, Count.judge]
    cases Count.ofText? (Text.trim value) <;> rfl

/-! ## Orderings -/

/-- The last sort column, trimmed, with the sense of the ordering; none when it is blank. -/
def sortKey? (p : Params) : Option SortKey :=
  ((p.last? Directive.orderBy.key).filter fun value => ¬ Text.Blank value).map fun value =>
    ⟨Text.trim value, p.direction⟩

theorem sortKey?_isSome_iff :
    p.sortKey?.isSome ↔ ∃ value ∈ p.last? Directive.orderBy.key, ¬ Text.Blank value := by
  unfold sortKey?
  cases p.last? Directive.orderBy.key with
  | none => simp
  | some value => by_cases blank : Text.Blank value <;> simp [Option.filter, blank]

/-- The one verdict on an ordering is on its column. -/
theorem orderVerdicts_eq (p : Params) :
    p.orderVerdicts = p.sortKey?.toList.map fun key =>
      (Verdict.ofExcept (checkIdentifier key.column)).map fun column =>
        ⟨column, key.direction⟩ := by
  unfold orderVerdicts sortKey?
  cases p.last? Directive.orderBy.key with
  | none => rfl
  | some value =>
    by_cases blank : Text.Blank value
    · simp [Option.filter, blank, Text.trim_eq_nil_iff]
    · simp [Option.filter, blank, Text.trim_eq_nil_iff, SortKey.judge]

/-- Where the ordering refuses nothing, it is kept as it was given. -/
theorem keptOf_orderVerdicts (accepted : ∀ v ∈ p.orderVerdicts, v.refusal? = none) :
    Verdict.keptOf p.orderVerdicts = p.sortKey?.toList := by
  rw [orderVerdicts_eq] at accepted ⊢
  generalize p.sortKey? = given at accepted ⊢
  cases given with
  | none => rfl
  | some key =>
    have verdict := accepted _ (List.mem_map_of_mem (List.mem_singleton_self key))
    cases checked : checkIdentifier key.column with
    | error refusal =>
      rw [checked] at verdict
      cases verdict
    | ok column =>
      obtain ⟨-, rfl⟩ := checkIdentifier_eq_ok_iff.1 checked
      simp [checked, Verdict.ofExcept, Verdict.map, Verdict.keptOf, Verdict.kept?]

end Params

namespace Query

variable {p : Params} {q : Query}

/-- Limit and offset are the counts of the last values given. -/
theorem window_kept (p : Params) :
    (kept p).window = ⟨p.count? Directive.limit.key, p.count? Directive.offset.key⟩ := by
  rw [kept, Params.keptOf_countVerdicts, Params.keptOf_countVerdicts, Option.head?_toList,
    Option.head?_toList]

theorem window_of_ofParams (h : ofParams p = .ok q) :
    q.window = ⟨p.count? Directive.limit.key, p.count? Directive.offset.key⟩ := by
  obtain ⟨-, rfl⟩ := ofParams_eq_ok_iff.1 h
  exact window_kept p

/-- The ordering is the one that the last sort column asks for. -/
theorem order_of_ofParams (h : ofParams p = .ok q) : q.order = p.sortKey? := by
  obtain ⟨accepted, rfl⟩ := ofParams_eq_ok_iff.1 h
  rw [kept, Params.keptOf_orderVerdicts (refusal?_eq_none_iff.1 accepted).order,
    Option.head?_toList]

end Query

end FilterSql
