/-
# FilterSql.Proofs.Query.Accepted -- parameters that are not refused

A parameter set asks for a query exactly when no item of any stage refuses it. `Params.Accepted`
states this stage by stage in terms of the verdicts, without the order in which the stages are gone
through, which matters for the error only.
-/

import FilterSql.Query.OfParams

namespace FilterSql

namespace Verdict

variable {α β : Type}

theorem refusalOf?_eq_none_iff {verdicts : List (Verdict α)} :
    refusalOf? verdicts = none ↔ ∀ v ∈ verdicts, v.refusal? = none := by
  simp [refusalOf?, List.findSome?_eq_none_iff]

/-- What an item gives rise to does not matter for refusals. -/
theorem refusalOf?_map (f : α → β) (verdicts : List (Verdict α)) :
    refusalOf? (verdicts.map (map f)) = refusalOf? verdicts := by
  induction verdicts with
  | nil => rfl
  | cons v rest ih =>
    simp only [refusalOf?] at ih
    simp only [refusalOf?, List.map_cons, List.findSome?_cons, refusal?_map, ih]

end Verdict

open Verdict in
/-- No item of any stage refuses the query; counts never do. -/
structure Params.Accepted (p : Params) : Prop where
  /-- No term of a group. -/
  groups : ∀ group ∈ p.groupVerdicts, ∀ v ∈ group.2, v.refusal? = none
  /-- No join. -/
  joins : ∀ v ∈ p.joinVerdicts, v.refusal? = none
  /-- No entry of the select list. -/
  projection : ∀ v ∈ p.projectionVerdicts, v.refusal? = none
  /-- No sort key. -/
  order : ∀ v ∈ p.orderVerdicts, v.refusal? = none
  /-- No column to group by. -/
  grouping : ∀ v ∈ p.groupingVerdicts, v.refusal? = none
  /-- No filter on groups of rows. -/
  having : ∀ v ∈ p.havingVerdicts, v.refusal? = none
  /-- No filter on rows. -/
  filters : ∀ v ∈ p.filterVerdicts, v.refusal? = none

theorem Count.refusal?_judge (key value : Text) : (Count.judge key value).refusal? = none := by
  unfold judge
  split <;> rfl

/-- The stage of counts refuses nothing. -/
theorem Stage.refusal?_window (p : Params) : window.refusal? p = none := by
  rw [refusal?, verdicts, Verdict.refusalOf?_map, Verdict.refusalOf?_eq_none_iff]
  intro v hv
  rcases List.mem_append.1 hv with hv | hv
  · obtain ⟨value, -, rfl⟩ := List.mem_map.1 hv
    exact Count.refusal?_judge _ value
  · obtain ⟨value, -, rfl⟩ := List.mem_map.1 hv
    exact Count.refusal?_judge _ value

/-- Parameters ask for a query exactly when no item refuses it. -/
theorem Query.refusal?_eq_none_iff {p : Params} : refusal? p = none ↔ p.Accepted := by
  have stages : refusal? p = none ↔ ∀ stage ∈ Stage.all, stage.refusal? p = none := by
    simp [refusal?, List.findSome?_eq_none_iff]
  rw [stages]
  simp only [Stage.all, List.forall_mem_cons, List.not_mem_nil, false_implies, implies_true,
    and_true, Stage.refusal?_window]
  simp only [Stage.refusal?, Stage.verdicts, Verdict.refusalOf?_map,
    Verdict.refusalOf?_eq_none_iff, List.mem_flatMap, forall_exists_index, and_imp]
  constructor
  · rintro ⟨groups, joins, projection, -, order, grouping, having, filters⟩
    exact ⟨fun group hg v hv => groups v group hg hv, joins, projection, order, grouping, having,
      filters⟩
  · intro h
    exact ⟨fun v group hg hv => h.groups group hg v hv, h.joins, h.projection, trivial, h.order,
      h.grouping, h.having, h.filters⟩

end FilterSql
