/-
# FilterSql.Query.OfParams -- the query that parameters ask for

A query is refused for the first refusal of the first stage that has one. Otherwise each of its
parts is what the verdicts on that part kept: a part never depends on the keys of another.
-/

import FilterSql.Query.Stages

namespace FilterSql

namespace Query

/-- The groups of which some member was kept. -/
def keptGroups (p : Params) : List Condition :=
  (p.groupVerdicts.map fun group => Group.mk group.1 (Verdict.keptOf group.2)).filterMap
    fun group => if group.members = [] then none else some (.group group)

/-- What was kept of every part. The groups stand before the single predicates. -/
def kept (p : Params) : Query where
  conditions := keptGroups p ++ (Verdict.keptOf p.filterVerdicts).map .predicate
  joins := Verdict.keptOf p.joinVerdicts
  projection := Verdict.keptOf p.projectionVerdicts
  exclude := p.contains Directive.exclude.key
  window :=
    { limit := (Verdict.keptOf (p.countVerdicts Directive.limit.key)).head?
      offset := (Verdict.keptOf (p.countVerdicts Directive.offset.key)).head? }
  order := (Verdict.keptOf p.orderVerdicts).head?
  grouping := Verdict.keptOf p.groupingVerdicts
  having := (Verdict.keptOf p.havingVerdicts).map .predicate

/-- Why the parameters are refused, if they are. -/
def refusal? (p : Params) : Option QueryError := Stage.all.findSome? (Stage.refusal? p)

/-- The query that parameters ask for, or the refusal of the first stage that has one. -/
def ofParams (p : Params) : Except QueryError Query :=
  match refusal? p with
  | some error => .error error
  | none => .ok (kept p)

theorem ofParams_eq_ok_iff {p : Params} {q : Query} :
    ofParams p = .ok q ↔ refusal? p = none ∧ q = kept p := by
  unfold ofParams
  cases refusal? p with
  | some error => exact ⟨(fun h => by cases h), fun h => by cases h.1⟩
  | none => exact ⟨fun h => ⟨rfl, (Except.ok.inj h).symm⟩,
      fun h => congrArg Except.ok h.2.symm⟩

theorem ofParams_eq_error_iff {p : Params} {e : QueryError} :
    ofParams p = .error e ↔ refusal? p = some e := by
  unfold ofParams
  cases refusal? p with
  | some error => exact ⟨fun h => congrArg some (Except.error.inj h),
      fun h => congrArg Except.error (Option.some.inj h)⟩
  | none => exact ⟨(fun h => by cases h), fun h => by cases h⟩

end Query

end FilterSql
