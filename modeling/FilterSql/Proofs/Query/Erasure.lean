/-
# FilterSql.Proofs.Query.Erasure -- what a query is up to the values of its operands

The outline of a verdict forgets why an item was skipped and erases what was kept. Outlines are all
that matters for refusals and, up to erasure, for what is kept: parameters with the same outlines,
stage by stage, are refused with the same error or ask for queries that are equal once erased.
-/

import FilterSql.Proofs.Query.Accepted
import FilterSql.Proofs.Query.WellFormed
import FilterSql.Proofs.Statement.Erasure

namespace FilterSql

/-! ## Outlines of verdicts -/

namespace Verdict

variable {α β : Type}

/-- Why the query is refused, and what was kept seen through a function. -/
def outline (view : α → β) (v : Verdict α) : Option QueryError × Option β :=
  (v.refusal?, v.kept?.map view)

theorem refusalOf?_eq_findSome?_outline (view : α → β) (verdicts : List (Verdict α)) :
    refusalOf? verdicts = (verdicts.map (outline view)).findSome? Prod.fst := by
  rw [refusalOf?, List.findSome?_map]
  rfl

theorem map_keptOf_eq_filterMap_outline (view : α → β) (verdicts : List (Verdict α)) :
    (keptOf verdicts).map view = (verdicts.map (outline view)).filterMap Prod.snd := by
  rw [keptOf, List.map_filterMap, List.filterMap_map]
  rfl

/-- Equal outlines refuse alike. -/
theorem refusalOf?_eq_of_outline {view : α → β} {first second : List (Verdict α)}
    (h : first.map (outline view) = second.map (outline view)) :
    refusalOf? first = refusalOf? second := by
  rw [refusalOf?_eq_findSome?_outline view, h, ← refusalOf?_eq_findSome?_outline]

/-- Equal outlines keep alike, up to the view. -/
theorem map_keptOf_eq_of_outline {view : α → β} {first second : List (Verdict α)}
    (h : first.map (outline view) = second.map (outline view)) :
    (keptOf first).map view = (keptOf second).map view := by
  rw [map_keptOf_eq_filterMap_outline, h, ← map_keptOf_eq_filterMap_outline]

end Verdict

/-! ## Outlines of predicates -/

/-- The items that the text of a list holds, parentheses around it or not. -/
def itemsOf (operand : Text) : List Text := Text.items (Text.unwrap (Text.trim operand))

/-- An operand in place of another: any for any, but a list for one with as many items. -/
def Replaces (operator operand operand' : Text) : Prop :=
  operator = Operator.isIn.name → (itemsOf operand).length = (itemsOf operand').length

instance (operator operand operand' : Text) : Decidable (Replaces operator operand operand') :=
  inferInstanceAs (Decidable (operator = Operator.isIn.name →
    (itemsOf operand).length = (itemsOf operand').length))

theorem Operand.map_erase_ofText? {known : Operator} {operand operand' : Text}
    (h : Replaces known.name operand operand') :
    (ofText? known operand).map (erase known) = (ofText? known operand').map (erase known) := by
  by_cases isIn : known = .isIn
  · subst isIn
    have count : ∀ s, (ofText? .isIn s).map (erase .isIn) =
        if (itemsOf s).length = 0 then none
        else some (list (List.replicate (itemsOf s).length [])) := by
      intro s
      unfold ofText? itemsOf
      rw [if_pos rfl]
      split
      · next empty => simp [empty]
      · next listed => simp [listed, erase, items, List.map_const', List.replicate_succ]
    rw [count, count, h rfl]
  · simp [ofText?, erase, isIn]

namespace Predicate

/-- The outline of a verdict is read off the operator, the erased operand and the column. -/
theorem outline_judge (column operator operand : Text) :
    (judge column operator operand).outline erase =
      match Operator.ofName? operator with
      | none => (none, none)
      | some known =>
        match (Operand.ofText? known operand).map (Operand.erase known) with
        | none => (none, none)
        | some erased =>
          match checkIdentifier column with
          | .ok name => (none, some ⟨name, known, erased⟩)
          | .error error => (some error, none) := by
  unfold judge
  cases Operator.ofName? operator with
  | none => rfl
  | some known =>
    dsimp only
    cases Operand.ofText? known operand with
    | none => rfl
    | some read => cases checkIdentifier column <;> rfl

/-- What replaces an operand does not show in the outline. -/
theorem outline_judge_eq {operator operand operand' : Text} (h : Replaces operator operand operand')
    (column : Text) :
    (judge column operator operand).outline erase =
      (judge column operator operand').outline erase := by
  rw [outline_judge, outline_judge]
  cases name : Operator.ofName? operator with
  | none => rfl
  | some known =>
    rw [Operator.ofName?_eq_some_iff.1 name] at h
    dsimp only
    rw [Operand.map_erase_ofText? h]

end Predicate

/-! ## Outlines of parameters -/

/-- The parameters agree in all but the values of operands. -/
structure Params.Similar (p p' : Params) : Prop where
  /-- The groups have the same outlines. -/
  groups : p.groupVerdicts.map (fun g => (g.1, g.2.map (Verdict.outline Predicate.erase))) =
    p'.groupVerdicts.map fun g => (g.1, g.2.map (Verdict.outline Predicate.erase))
  /-- So have the filters on rows. -/
  filters : p.filterVerdicts.map (Verdict.outline Predicate.erase) =
    p'.filterVerdicts.map (Verdict.outline Predicate.erase)
  /-- So have the filters on groups of rows. -/
  having : p.havingVerdicts.map (Verdict.outline Predicate.erase) =
    p'.havingVerdicts.map (Verdict.outline Predicate.erase)
  /-- The joins are the same. -/
  joins : p.joinVerdicts = p'.joinVerdicts
  /-- So is the select list. -/
  projection : p.projectionVerdicts = p'.projectionVerdicts
  /-- So is the wildcard flag. -/
  exclude : p.contains Directive.exclude.key = p'.contains Directive.exclude.key
  /-- So is the limit. -/
  limit : p.countVerdicts Directive.limit.key = p'.countVerdicts Directive.limit.key
  /-- So is the offset. -/
  offset : p.countVerdicts Directive.offset.key = p'.countVerdicts Directive.offset.key
  /-- So is the ordering. -/
  order : p.orderVerdicts = p'.orderVerdicts
  /-- So is the grouping. -/
  grouping : p.groupingVerdicts = p'.groupingVerdicts

namespace Params.Similar

variable {p p' : Params}

/-- Similar parameters have the same refusal. -/
theorem refusal?_eq (h : p.Similar p') : Query.refusal? p = Query.refusal? p' := by
  have groups : (p.groupVerdicts.flatMap Prod.snd).map (Verdict.outline Predicate.erase) =
      (p'.groupVerdicts.flatMap Prod.snd).map (Verdict.outline Predicate.erase) := by
    have all := congrArg (List.flatMap Prod.snd) h.groups
    simpa only [List.flatMap_map, List.map_flatMap] using all
  have stage : ∀ s : Stage, s.refusal? p = s.refusal? p' := by
    intro s
    unfold Stage.refusal?
    cases s with
    | groups =>
      simp only [Stage.verdicts, Verdict.refusalOf?_map]
      exact Verdict.refusalOf?_eq_of_outline groups
    | filters =>
      simp only [Stage.verdicts, Verdict.refusalOf?_map]
      exact Verdict.refusalOf?_eq_of_outline h.filters
    | having =>
      simp only [Stage.verdicts, Verdict.refusalOf?_map]
      exact Verdict.refusalOf?_eq_of_outline h.having
    | joins => simp only [Stage.verdicts, h.joins]
    | projection => simp only [Stage.verdicts, h.projection]
    | window => simp only [Stage.verdicts, h.limit, h.offset]
    | order => simp only [Stage.verdicts, h.order]
    | grouping => simp only [Stage.verdicts, h.grouping]
  rw [Query.refusal?, Query.refusal?, funext stage]

/-- The kept groups of similar parameters are equal once erased. -/
theorem erase_keptGroups_eq (h : p.Similar p') :
    (Query.keptGroups p).map Condition.erase = (Query.keptGroups p').map Condition.erase := by
  -- Whether a group is kept is decided by its erased members, which are as many as its members.
  have read : ∀ p : Params, (Query.keptGroups p).map Condition.erase =
      (p.groupVerdicts.map fun g => (g.1, g.2.map (Verdict.outline Predicate.erase))).filterMap
        fun g =>
          if g.2.filterMap Prod.snd = [] then none
          else some (.group ⟨g.1, g.2.filterMap Prod.snd⟩) := by
    intro p
    rw [Query.keptGroups, List.map_filterMap, List.filterMap_map, List.filterMap_map]
    congr 1
    funext g
    simp only [Function.comp_apply, ← Verdict.map_keptOf_eq_filterMap_outline, List.map_eq_nil_iff]
    split <;> rfl
  rw [read, read, h.groups]

/-- What is kept of similar parameters is equal once erased. -/
theorem erase_kept_eq (h : p.Similar p') : (Query.kept p).erase = (Query.kept p').erase := by
  have erased : ∀ predicates : List Predicate, (predicates.map Condition.predicate).map
      Condition.erase = (predicates.map Predicate.erase).map Condition.predicate := by
    intro predicates
    rw [List.map_map, List.map_map]
    rfl
  have conditions : (Query.kept p).conditions.map Condition.erase =
      (Query.kept p').conditions.map Condition.erase := by
    simp only [Query.kept, List.map_append, erased]
    rw [h.erase_keptGroups_eq, Verdict.map_keptOf_eq_of_outline h.filters]
  have having : (Query.kept p).having.map Condition.erase =
      (Query.kept p').having.map Condition.erase := by
    simp only [Query.kept, erased]
    rw [Verdict.map_keptOf_eq_of_outline h.having]
  simp only [Query.erase, conditions, having]
  simp only [Query.kept, h.joins, h.projection, h.exclude, h.limit, h.offset, h.order, h.grouping]

end Params.Similar

end FilterSql
