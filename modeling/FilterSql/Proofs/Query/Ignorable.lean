/-
# FilterSql.Proofs.Query.Ignorable -- values that are ignored whatever else is given

A malformed value must neither refuse a query nor change it. `Ignorable` says which values are
malformed under which key, on the text of the value alone: nothing in it depends on the other
parameters, and the column of a filter does not count, however unsafe it is.

Every item of an ignorable value is skipped. Skipped items have no say in the query, so parameters
that differ in them alone (`Params.Alike`) are refused alike or ask for the same query. What is left
is the place of the value: under a column the order of first arrival is the order of the conditions,
so the value of a filter must not be the first one of a key that is given again later.
-/

import Mathlib.Data.List.Infix
import FilterSql.Compile
import FilterSql.Proofs.Params.Grouping
import FilterSql.Proofs.Query.Accepted
import FilterSql.Proofs.Query.Parts
import FilterSql.Proofs.Text.Cuts

namespace FilterSql

/-! ## Ignorable values -/

/-- The value of a filter asks for nothing. -/
inductive Idle : Text → Prop where
  /-- It has no dot. -/
  | undotted {value : Text} : '.' ∉ value → Idle value
  /-- What stands before its first dot is no operator. -/
  | unknown {name operand : Text} : '.' ∉ name → (∀ operator : Operator, name ≠ operator.name) →
      Idle (name ++ '.' :: operand)
  /-- Its operand is a list without an item that is not blank. -/
  | empty {operand : Text} :
      (∀ item ∈ (Text.unwrap (Text.trim operand)).splitOn ',', Text.Blank item) →
      Idle (Operator.isIn.name ++ '.' :: operand)

/-- The term of a group asks for nothing. -/
inductive IdleTerm : Text → Prop where
  /-- It has no dot. -/
  | undotted {term : Text} : '.' ∉ term → IdleTerm term
  /-- What stands behind its first dot has no dot, an unknown operator or an empty list. -/
  | filter {column value : Text} : '.' ∉ column → Idle value → IdleTerm (column ++ '.' :: value)

/-- The value of a join asks for nothing. -/
inductive IdleJoin : Text → Prop where
  /-- It lacks the mark before the operands. -/
  | unmarked {value : Text} : ¬ Join.onMark <:+: value → IdleJoin value
  /-- It has fewer than two operands, or a blank one. -/
  | incomplete {value table on : Text} : cut? Join.onMark value = some (table, on) →
      ((on.splitOn '=').length < 2 ∨ ∃ operand ∈ on.splitOn '=', Text.Blank operand) →
      IdleJoin value

/-- The value is ignored under a key with this meaning. -/
def Directive.Ignores (value : Text) : Directive → Prop
  | filter _ | having _ => Idle value
  | or | and => ∀ term ∈ Text.terms (Text.unwrap (Text.trim value)), IdleTerm term
  | join => IdleJoin value
  | select => ∀ piece ∈ Text.cutsFrom 0 value, Text.Blank piece
  | groupBy => ∀ piece ∈ value.splitOn ',', Text.Blank piece
  | limit | offset | orderBy | order | exclude => False

/-- The value is ignored under the key. -/
def Ignorable (key value : Text) : Prop := (Directive.ofKey key).Ignores value

theorem Ignorable.ignores {key value : Text} (h : Ignorable key value) {directive : Directive}
    (proper : directive ∈ Directive.proper) (same : directive.key = key) :
    directive.Ignores value := by
  rw [← Directive.ofKey_key proper, same]
  exact h

/-! ## Verdicts that have a say -/

namespace Verdict

variable {α : Type}

/-- Is the item ignored? -/
def isSkipped : Verdict α → Bool
  | skipped _ => true
  | _ => false

/-- The verdicts on items that are not ignored. -/
def decisive (verdicts : List (Verdict α)) : List (Verdict α) :=
  verdicts.filter fun v => !v.isSkipped

@[simp]
theorem isSkipped_kept (a : α) : (kept a).isSkipped = false := rfl

@[simp]
theorem isSkipped_skipped (reason : Skip) : (skipped reason : Verdict α).isSkipped = true := rfl

@[simp]
theorem isSkipped_refused (error : QueryError) : (refused error : Verdict α).isSkipped = false :=
  rfl

@[simp]
theorem decisive_singleton_eq_nil_iff {v : Verdict α} : decisive [v] = [] ↔ v.isSkipped = true := by
  simp [decisive]

theorem decisive_map_eq_flatMap {β : Type} (judge : β → Verdict α) (items : List β) :
    decisive (items.map judge) = items.flatMap fun item => decisive [judge item] := by
  rw [List.map_eq_flatMap, decisive, List.filter_flatMap]
  rfl

/-- What is taken from no skipped item is taken from the others. -/
theorem filterMap_decisive {β : Type} {f : Verdict α → Option β}
    (h : ∀ reason, f (skipped reason) = none) (verdicts : List (Verdict α)) :
    (decisive verdicts).filterMap f = verdicts.filterMap f := by
  rw [decisive, List.filterMap_filter]
  refine List.filterMap_congr fun v _ => ?_
  cases v with
  | skipped reason => simp [h]
  | _ => simp

/-- Skipped items refuse nothing. -/
theorem refusalOf?_decisive (verdicts : List (Verdict α)) :
    refusalOf? (decisive verdicts) = refusalOf? verdicts := by
  rw [refusalOf?, refusalOf?, ← List.head?_filterMap, ← List.head?_filterMap,
    filterMap_decisive fun _ => rfl]

/-- Nor is any of them kept. -/
theorem keptOf_decisive (verdicts : List (Verdict α)) :
    keptOf (decisive verdicts) = keptOf verdicts :=
  filterMap_decisive (fun _ => rfl) verdicts

theorem refusalOf?_eq_of_decisive {first second : List (Verdict α)}
    (h : decisive first = decisive second) : refusalOf? first = refusalOf? second := by
  rw [← refusalOf?_decisive, h, refusalOf?_decisive]

theorem keptOf_eq_of_decisive {first second : List (Verdict α)}
    (h : decisive first = decisive second) : keptOf first = keptOf second := by
  rw [← keptOf_decisive, h, keptOf_decisive]

end Verdict

open Verdict (decisive isSkipped)

/-! ## Every item of an ignorable value is skipped -/

theorem Predicate.isSkipped_judge_of_unknown {column name operand : Text}
    (h : ∀ operator : Operator, name ≠ operator.name) :
    (judge column name operand).isSkipped = true := by
  have unknown : Operator.ofName? name = none :=
    Option.eq_none_iff_forall_not_mem.2 fun operator known =>
      h operator (Operator.ofName?_eq_some_iff.1 known)
  rw [judge, unknown]
  rfl

theorem Predicate.isSkipped_judge_of_empty {column operand : Text}
    (h : ∀ item ∈ (Text.unwrap (Text.trim operand)).splitOn ',', Text.Blank item) :
    (judge column Operator.isIn.name operand).isSkipped = true := by
  have empty : Operand.ofText? .isIn operand = none := by
    rw [Operand.ofText?, if_pos rfl, Text.items, Text.nonblank_eq_nil_iff.2 h]
  rw [judge, Operator.ofName?_name]
  dsimp only
  rw [empty]
  rfl

theorem cut?_dot_eq_none {s : Text} (h : '.' ∉ s) : cut? ['.'] s = none :=
  cut?_eq_none fun occurs => h ((List.singleton_infix_iff '.' s).1 occurs)

/-- The column of an idle filter is not looked at. -/
theorem Predicate.isSkipped_judgeFilter {value : Text} (h : Idle value) (column : Text) :
    (judgeFilter column value).isSkipped = true := by
  cases h with
  | undotted absent =>
    rw [judgeFilter, cut?_dot_eq_none absent]
    rfl
  | unknown undotted unknown =>
    rw [judgeFilter, cut?_append _ undotted]
    exact isSkipped_judge_of_unknown unknown
  | empty blank =>
    rw [judgeFilter, cut?_append _ (Operator.dot_not_mem_name .isIn)]
    exact isSkipped_judge_of_empty blank

/-- Behind its column a term is judged like a filter. -/
theorem Predicate.isSkipped_judgeTerm_append {column value : Text} (h : '.' ∉ column) :
    (judgeTerm (column ++ '.' :: value)).isSkipped = (judgeFilter column value).isSkipped := by
  rw [judgeTerm, cut?_append _ h, judgeFilter]
  dsimp only
  cases cut? ['.'] value <;> rfl

theorem Predicate.isSkipped_judgeTerm {term : Text} (h : IdleTerm term) :
    (judgeTerm term).isSkipped = true := by
  cases h with
  | undotted absent =>
    rw [judgeTerm, cut?_dot_eq_none absent]
    rfl
  | filter undotted idle =>
    rw [isSkipped_judgeTerm_append undotted]
    exact isSkipped_judgeFilter idle _

/-- The table of an idle join is not looked at. -/
theorem Join.isSkipped_judge {value : Text} (h : IdleJoin value) :
    (judge value).isSkipped = true := by
  cases h with
  | unmarked absent =>
    rw [judge, cut?_eq_none absent]
    rfl
  | @incomplete table on cut lacking =>
    have skipped : ((on.splitOn '=').map Text.trim).length < 2 ∨
        [] ∈ (on.splitOn '=').map Text.trim := by
      rw [List.length_map, List.mem_map]
      simpa only [Text.trim_eq_nil_iff] using lacking
    rw [judge, cut]
    dsimp only
    rw [if_pos skipped]
    rfl

/-! ## Parameters that differ in skipped items only -/

/-- The groups of which some term is not ignored, without the terms that are. -/
def decisiveGroups (groups : List (Combinator × List (Verdict Predicate))) :
    List (Combinator × List (Verdict Predicate)) :=
  (groups.map fun group => (group.1, decisive group.2)).filter fun group => group.2 ≠ []

/-- Ignored terms refuse nothing, whatever group they are in. -/
theorem refusalOf?_decisiveGroups (groups : List (Combinator × List (Verdict Predicate))) :
    Verdict.refusalOf? ((decisiveGroups groups).flatMap Prod.snd) =
      Verdict.refusalOf? (groups.flatMap Prod.snd) := by
  have terms : (decisiveGroups groups).flatMap Prod.snd = decisive (groups.flatMap Prod.snd) := by
    rw [decisiveGroups, flatMap_filter_of_forall fun group _ dropped => by simpa using dropped,
      List.flatMap_map, decisive, List.filter_flatMap]
    rfl
  rw [terms, Verdict.refusalOf?_decisive]

/-- Nor do they change what groups are kept. -/
theorem filterMap_decisiveGroups (groups : List (Combinator × List (Verdict Predicate))) :
    (decisiveGroups groups).filterMap Query.groupCondition? =
      groups.filterMap Query.groupCondition? := by
  rw [decisiveGroups, List.filterMap_filter, List.filterMap_map]
  refine List.filterMap_congr fun group _ => ?_
  by_cases silent : decisive group.2 = []
  · have nothing : Verdict.keptOf group.2 = [] := by
      rw [← Verdict.keptOf_decisive, silent]
      rfl
    simp [silent, Query.groupCondition?, nothing]
  · simp [silent, Query.groupCondition?, Verdict.keptOf_decisive]

namespace Params

/-- Two parameter sets differ at most in items that are ignored. -/
structure Alike (p p' : Params) : Prop where
  /-- The groups with a say. -/
  groups : decisiveGroups p.groupVerdicts = decisiveGroups p'.groupVerdicts
  /-- The joins. -/
  joins : decisive p.joinVerdicts = decisive p'.joinVerdicts
  /-- The select list. -/
  projection : p.projectionVerdicts = p'.projectionVerdicts
  /-- The wildcard flag. -/
  exclude : p.contains Directive.exclude.key = p'.contains Directive.exclude.key
  /-- The limit and the offset. -/
  counts : ∀ key ∈ [Directive.limit.key, Directive.offset.key],
    p.countVerdicts key = p'.countVerdicts key
  /-- The ordering. -/
  order : p.orderVerdicts = p'.orderVerdicts
  /-- The columns to group by. -/
  grouping : p.groupingVerdicts = p'.groupingVerdicts
  /-- The filters on groups of rows. -/
  having : decisive p.havingVerdicts = decisive p'.havingVerdicts
  /-- The filters on rows. -/
  filters : decisive p.filterVerdicts = decisive p'.filterVerdicts

namespace Alike

variable {p p' : Params}

theorem stage_refusal?_eq (h : Alike p p') (stage : Stage) :
    stage.refusal? p = stage.refusal? p' := by
  cases stage with
  | groups =>
    simp only [Stage.refusal?, Stage.verdicts, Verdict.refusalOf?_map]
    rw [← refusalOf?_decisiveGroups, h.groups, refusalOf?_decisiveGroups]
  | joins =>
    simp only [Stage.refusal?, Stage.verdicts, Verdict.refusalOf?_map]
    exact Verdict.refusalOf?_eq_of_decisive h.joins
  | projection => rw [Stage.refusal?, Stage.refusal?, Stage.verdicts, Stage.verdicts, h.projection]
  | window => rw [Stage.refusal?_window, Stage.refusal?_window]
  | order => rw [Stage.refusal?, Stage.refusal?, Stage.verdicts, Stage.verdicts, h.order]
  | grouping => rw [Stage.refusal?, Stage.refusal?, Stage.verdicts, Stage.verdicts, h.grouping]
  | having =>
    simp only [Stage.refusal?, Stage.verdicts, Verdict.refusalOf?_map]
    exact Verdict.refusalOf?_eq_of_decisive h.having
  | filters =>
    simp only [Stage.refusal?, Stage.verdicts, Verdict.refusalOf?_map]
    exact Verdict.refusalOf?_eq_of_decisive h.filters

theorem kept_eq (h : Alike p p') : Query.kept p = Query.kept p' := by
  have groups : Query.keptGroups p = Query.keptGroups p' := by
    rw [Query.keptGroups_eq, Query.keptGroups_eq, ← filterMap_decisiveGroups, h.groups,
      filterMap_decisiveGroups]
  rw [Query.kept, Query.kept, groups, Verdict.keptOf_eq_of_decisive h.filters,
    Verdict.keptOf_eq_of_decisive h.joins, h.projection, h.exclude, h.counts _ (by simp),
    h.counts _ (by simp), h.order, h.grouping, Verdict.keptOf_eq_of_decisive h.having]

/-- Such parameters are refused alike or ask for the same query. -/
theorem ofParams_eq (h : Alike p p') : Query.ofParams p = Query.ofParams p' := by
  have refusal : Query.refusal? p = Query.refusal? p' := by
    rw [Query.refusal?, Query.refusal?, funext h.stage_refusal?_eq]
  rw [Query.ofParams, Query.ofParams, refusal, h.kept_eq]

end Alike

end Params

/-! ## One ignorable value more -/

namespace Params

/-- What a value under one of the group keys contributes. -/
theorem decisiveGroups_groupVerdicts (p : Params) :
    let contribution := fun combinator value => decisiveGroups
      [(combinator, (Text.terms (Text.unwrap (Text.trim value))).map Predicate.judgeTerm)]
    decisiveGroups p.groupVerdicts =
      (p.values Directive.or.key).flatMap (contribution .or) ++
        (p.values Directive.and.key).flatMap (contribution .and) := by
  simp only [groupVerdicts, groups, decisiveGroups, List.map_append, List.map_map,
    List.filter_append]
  rw [List.map_eq_flatMap, List.map_eq_flatMap, List.filter_flatMap, List.filter_flatMap]
  rfl

/-- What the value of a filter contributes. -/
def columnContribution (pick : Directive → Option Text) (key value : Text) :
    List (Verdict Predicate) :=
  (pick (Directive.ofKey key)).toList.flatMap fun column =>
    decisive [Predicate.judgeFilter column value]

theorem decisive_columnVerdicts (p : Params) (pick : Directive → Option Text) :
    decisive (p.columnVerdicts pick) =
      p.entries.flatMap fun entry => entry.2.flatMap (columnContribution pick entry.1) := by
  rw [columnVerdicts, decisive, List.filter_flatMap]
  refine List.flatMap_congr fun entry _ => ?_
  unfold columnContribution
  cases pick (Directive.ofKey entry.1) with
  | none => simp
  | some column =>
    have made := Verdict.decisive_map_eq_flatMap (Predicate.judgeFilter column) entry.2
    simpa [decisive] using made

section Insert

variable {before after : List (Text × Text)} {key value : Text}

/-- A group of idle terms has no say. -/
theorem decisiveGroups_of_idle (combinator : Combinator) {terms : List Text}
    (idle : ∀ term ∈ terms, IdleTerm term) :
    decisiveGroups [(combinator, terms.map Predicate.judgeTerm)] = [] := by
  have skipped : decisive (terms.map Predicate.judgeTerm) = [] := by
    rw [Verdict.decisive_map_eq_flatMap, List.flatMap_eq_nil_iff]
    exact fun term mem =>
      Verdict.decisive_singleton_eq_nil_iff.2 (Predicate.isSkipped_judgeTerm (idle term mem))
  simp [decisiveGroups, skipped]

theorem decisiveGroups_insert (h : Ignorable key value) :
    decisiveGroups (ofPairs (before ++ (key, value) :: after)).groupVerdicts =
      decisiveGroups (ofPairs (before ++ after)).groupVerdicts := by
  have idleOr (same : Directive.or.key = key) : Directive.or.Ignores value :=
    h.ignores (by decide) same
  have idleAnd (same : Directive.and.key = key) : Directive.and.Ignores value :=
    h.ignores (by decide) same
  rw [decisiveGroups_groupVerdicts, decisiveGroups_groupVerdicts,
    flatMap_values_insert fun same => decisiveGroups_of_idle .or (idleOr same),
    flatMap_values_insert fun same => decisiveGroups_of_idle .and (idleAnd same)]

theorem decisive_joinVerdicts_insert (h : Ignorable key value) :
    decisive (ofPairs (before ++ (key, value) :: after)).joinVerdicts =
      decisive (ofPairs (before ++ after)).joinVerdicts := by
  rw [joinVerdicts, joinVerdicts, Verdict.decisive_map_eq_flatMap, Verdict.decisive_map_eq_flatMap]
  refine flatMap_values_insert fun same => ?_
  have idle : IdleJoin value := h.ignores (by decide) same
  exact Verdict.decisive_singleton_eq_nil_iff.2 (Join.isSkipped_judge idle)

theorem projectionVerdicts_insert (h : Ignorable key value) :
    (ofPairs (before ++ (key, value) :: after)).projectionVerdicts =
      (ofPairs (before ++ after)).projectionVerdicts := by
  have blank : Directive.select.key = key → Text.terms value = [] := fun same =>
    Text.nonblank_eq_nil_iff.2 (h.ignores (by decide) same)
  rw [projectionVerdicts, projectionVerdicts, flatMap_values_insert blank]

theorem groupingVerdicts_insert (h : Ignorable key value) :
    (ofPairs (before ++ (key, value) :: after)).groupingVerdicts =
      (ofPairs (before ++ after)).groupingVerdicts := by
  have blank : Directive.groupBy.key = key → Text.items value = [] := fun same =>
    Text.nonblank_eq_nil_iff.2 (h.ignores (by decide) same)
  rw [groupingVerdicts, groupingVerdicts, flatMap_values_insert blank]

/-- Under the other directives no value is ignorable. -/
theorem values_insert_of_forall_not_ignores (h : Ignorable key value) {directive : Directive}
    (proper : directive ∈ Directive.proper) (never : ¬ directive.Ignores value) :
    (ofPairs (before ++ (key, value) :: after)).values directive.key =
      (ofPairs (before ++ after)).values directive.key :=
  values_insert_of_ne fun same => never (h.ignores proper same)

/-- Filters are read key by key, so among them the key of the value must have its place already, or
be without other values. -/
theorem decisive_columnVerdicts_insert (h : Ignorable key value)
    (place : Directive.ofKey key ∉ Directive.proper →
      key ∈ before.map Prod.fst ∨ key ∉ (before ++ after).map Prod.fst)
    {pick : Directive → Option Text}
    (filters : ∀ directive column, pick directive = some column →
      directive = .filter column ∨ directive = .having column) :
    decisive ((ofPairs (before ++ (key, value) :: after)).columnVerdicts pick) =
      decisive ((ofPairs (before ++ after)).columnVerdicts pick) := by
  rw [decisive_columnVerdicts, decisive_columnVerdicts]
  by_cases picked : pick (Directive.ofKey key) = none
  · -- No filter stands under the key, whatever its values.
    have nothing : columnContribution pick key = fun _ => [] := by
      funext other
      rw [columnContribution, picked]
      rfl
    apply flatMap_entries_insert
    · rw [nothing]
    · rw [nothing]
      exact .inr (by simp)
  · obtain ⟨column, picked⟩ := Option.ne_none_iff_exists'.1 picked
    have kind := filters _ _ picked
    have idle : Idle value := by
      rcases kind with kind | kind
      · rw [Ignorable, kind] at h
        exact h
      · rw [Ignorable, kind] at h
        exact h
    have improper : Directive.ofKey key ∉ Directive.proper := by
      rcases kind with kind | kind
      · simp [kind, Directive.proper]
      · simp [kind, Directive.proper]
    apply flatMap_entries_insert
    · rw [columnContribution, picked]
      simpa using Predicate.isSkipped_judgeFilter idle column
    · refine (place improper).imp_right fun absent => ?_
      have none : (ofPairs (before ++ after)).values key = [] := by
        rw [values_ofPairs, List.map_eq_nil_iff, List.filter_eq_nil_iff]
        intro pair mem same
        exact absent (List.mem_map.2 ⟨pair, mem, of_decide_eq_true same⟩)
      rw [none]
      rfl

/-- With an ignorable value more, only ignored items are more. -/
theorem alike_insert (h : Ignorable key value)
    (place : Directive.ofKey key ∉ Directive.proper →
      key ∈ before.map Prod.fst ∨ key ∉ (before ++ after).map Prod.fst) :
    Alike (ofPairs (before ++ (key, value) :: after)) (ofPairs (before ++ after)) where
  groups := decisiveGroups_insert h
  joins := decisive_joinVerdicts_insert h
  projection := projectionVerdicts_insert h
  exclude := by
    rw [Bool.eq_iff_iff, contains_eq_true_iff, contains_eq_true_iff,
      values_insert_of_forall_not_ignores h (by decide) id]
  counts := by
    simp only [List.forall_mem_cons, List.not_mem_nil, false_implies, implies_true, and_true]
    exact ⟨countVerdicts_congr (values_insert_of_forall_not_ignores h (by decide) id),
      countVerdicts_congr (values_insert_of_forall_not_ignores h (by decide) id)⟩
  order := orderVerdicts_congr
    ⟨values_insert_of_forall_not_ignores h (by decide) id,
      values_insert_of_forall_not_ignores h (by decide) id⟩
  grouping := groupingVerdicts_insert h
  having := by
    rw [havingVerdicts_eq, havingVerdicts_eq]
    exact decisive_columnVerdicts_insert h place fun _ _ picked =>
      .inr (Directive.groupColumn?_eq_some_iff.1 picked)
  filters := by
    rw [filterVerdicts_eq, filterVerdicts_eq]
    exact decisive_columnVerdicts_insert h place fun _ _ picked =>
      .inl (Directive.rowColumn?_eq_some_iff.1 picked)

end Insert

end Params

/-- An ignorable value is ignored wherever it arrives, whatever else is given: the parameters are
refused for the same reason or ask for the same query, and every dialect makes the same of them. The
value of a filter must not be the first of a key that is given again later. -/
theorem Query.ofParams_insert_ignorable {key value : Text} (h : Ignorable key value)
    (before after : List (Text × Text))
    (place : Directive.ofKey key ∉ Directive.proper →
      key ∈ before.map Prod.fst ∨ key ∉ (before ++ after).map Prod.fst) :
    ofParams (.ofPairs (before ++ (key, value) :: after)) = ofParams (.ofPairs (before ++ after)) ∧
      ∀ (dialect : Dialect) (table : Text),
        dialect.compile table (.ofPairs (before ++ (key, value) :: after)) =
          dialect.compile table (.ofPairs (before ++ after)) := by
  have same : ofParams (.ofPairs (before ++ (key, value) :: after)) =
      ofParams (.ofPairs (before ++ after)) := (Params.alike_insert h place).ofParams_eq
  refine ⟨same, fun dialect table => ?_⟩
  rw [Dialect.compile, Dialect.compile, same]

/-- A filter with an unknown operator is ignored, though its column would be refused, and so is a
group of a term without an operand and an empty list. -/
theorem Query.ofParams_insert_ignorable_unsafe :
    let before : List (Text × Text) := [("a", "eq.1")]
    let after : List (Text × Text) := [("limit", "5")]
    let filter : Text × Text := ("b-c", "~.1")
    let group : Text × Text := ("or", "(d.eq,e.in.())")
    Ignorable filter.1 filter.2 ∧ Ignorable group.1 group.2 ∧
      ofParams (.ofPairs (before ++ filter :: after)) = ofParams (.ofPairs (before ++ after)) ∧
      ofParams (.ofPairs (before ++ group :: after)) = ofParams (.ofPairs (before ++ after)) := by
  intro before after filter group
  have undotted : '.' ∉ "~".toList := by decide
  have unknown : ∀ operator : Operator, "~".toList ≠ operator.name := by
    intro operator
    cases operator <;> decide
  have idleFilter : Ignorable filter.1 filter.2 := by
    have kind : Directive.ofKey filter.1 = .filter "b-c" := by decide
    rw [Ignorable, kind]
    exact Idle.unknown undotted unknown
  have idleGroup : Ignorable group.1 group.2 := by
    have kind : Directive.ofKey group.1 = .or := by decide
    have terms : Text.terms (Text.unwrap (Text.trim group.2)) =
        ["d".toList ++ '.' :: "eq".toList, "e".toList ++ '.' :: "in.()".toList] := by decide
    rw [Ignorable, kind, Directive.Ignores, terms]
    simp only [List.forall_mem_cons, List.not_mem_nil, false_implies, implies_true, and_true]
    have empty : ∀ item ∈ (Text.unwrap (Text.trim "()")).splitOn ',', Text.Blank item := by decide
    exact ⟨.filter (by decide) (.undotted (by decide)), .filter (by decide) (Idle.empty empty)⟩
  exact ⟨idleFilter, idleGroup,
    (ofParams_insert_ignorable idleFilter before after fun _ => by decide).1,
    (ofParams_insert_ignorable idleGroup before after fun _ => by decide).1⟩

end FilterSql
