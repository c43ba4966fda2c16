/-
# FilterSql.Proofs.Query.RoundTrip -- every query that can be written is read back

`Query.settings` writes a query, item by item, each under its directive, and `Query.pairs` turns
directives into keys. `Query.Expressible` says which queries can be written: every item can be, the
groups stand before the single predicates, the predicates of one column stand together, and no
column looks like a directive. The parameters that such a query is written as ask for exactly this
query, and so do all others that give every part the same to read, however their keys are mixed.

The proof goes by stages. Each stage finds under its keys the values that were written there, and
comes to verdicts that keep the items they were written for (`Params.Lists`).
-/

import FilterSql.Proofs.Params.Grouping
import FilterSql.Proofs.Query.Accepted
import FilterSql.Proofs.Query.Parts
import FilterSql.Proofs.Query.Writing

namespace FilterSql

/-! ## Filters pair by pair -/

namespace Params

/-- Filters are judged value by value. -/
theorem columnVerdicts_eq_pairs (p : Params) (pick : Directive → Option Text) :
    p.columnVerdicts pick = p.pairs.flatMap fun pair =>
      (pick (Directive.ofKey pair.1)).toList.map fun column =>
        Predicate.judgeFilter column pair.2 := by
  rw [columnVerdicts, ← flatMap_entries p fun key value =>
    (pick (Directive.ofKey key)).toList.map fun column => Predicate.judgeFilter column value]
  refine List.flatMap_congr fun entry _ => ?_
  cases pick (Directive.ofKey entry.1) with
  | none => simp
  | some column => simp [List.map_eq_flatMap]

/-- Pairs that are no filters do not matter, and filters that arrive column by column are judged in
the order of their arrival. -/
theorem columnVerdicts_ofPairs {pairs : List (Text × Text)} {pick : Directive → Option Text}
    (h : Contiguous ((pairs.filter fun pair =>
      (pick (Directive.ofKey pair.1)).isSome).map Prod.fst)) :
    (ofPairs pairs).columnVerdicts pick =
      (pairs.filter fun pair => (pick (Directive.ofKey pair.1)).isSome).flatMap fun pair =>
        (pick (Directive.ofKey pair.1)).toList.map fun column =>
          Predicate.judgeFilter column pair.2 := by
  have filters := filter_entries_ofPairs fun key => (pick (Directive.ofKey key)).isSome
  have alone : (ofPairs pairs).columnEntries pick =
      (ofPairs (pairs.filter fun pair =>
        (pick (Directive.ofKey pair.1)).isSome)).columnEntries pick := by
    rw [columnEntries, columnEntries, filters, filters, List.filter_filter]
    simp only [Bool.and_self]
  rw [columnVerdicts_congr alone, columnVerdicts_eq_pairs, pairs_ofPairs h]

end Params

/-! ## Settings -/

/-- A value under a directive. -/
abbrev Setting := Directive × Text

namespace Setting

/-- The value with the key of the directive. -/
def pair (setting : Setting) : Text × Text := (setting.1.key, setting.2)

/-- The directive is what its key stands for. -/
def Regular (setting : Setting) : Prop := Directive.ofKey setting.1.key = setting.1

/-- The values under a directive. -/
def under (directive : Directive) (settings : List Setting) : List Text :=
  (settings.filter fun setting => setting.1 = directive).map Prod.snd

variable {α : Type} {directive : Directive} {settings : List Setting}

@[simp]
theorem under_append (first second : List Setting) :
    under directive (first ++ second) = under directive first ++ under directive second := by
  simp [under]

/-- Of values under one directive all are found there. -/
@[simp]
theorem under_map_self (text : α → Text) (items : List α) :
    under directive (items.map fun item => (directive, text item)) = items.map text := by
  simp [under, List.filter_map, Function.comp_def]

/-- Of values under other directives none is. -/
@[simp]
theorem under_map_of_ne {other : α → Directive} (h : ∀ item, other item ≠ directive)
    (text : α → Text) (items : List α) :
    under directive (items.map fun item => (other item, text item)) = [] := by
  simp [under, List.filter_map, Function.comp_def, h]

/-- Values under one directive are found under that one. -/
@[simp]
theorem under_map_mk (other : Directive) (values : List Text) :
    under directive (values.map (Prod.mk other)) = if other = directive then values else [] := by
  split
  · next same => simp [under, List.filter_map, Function.comp_def, same]
  · next different => simp [under, List.filter_map, Function.comp_def, different]

/-- Pairs of a class of directives are those of the settings of that class. -/
theorem filter_map_pair (regular : ∀ setting ∈ settings, setting.Regular)
    (keep : Directive → Bool) :
    (settings.map pair).filter (fun pair => keep (Directive.ofKey pair.1)) =
      (settings.filter fun setting => keep setting.1).map pair := by
  rw [List.filter_map]
  congr 1
  exact List.filter_congr fun setting mem => congrArg keep (regular setting mem)

/-- The values under a directive proper are those of its key. -/
theorem values_ofPairs (regular : ∀ setting ∈ settings, setting.Regular)
    (proper : directive ∈ Directive.proper) :
    (Params.ofPairs (settings.map pair)).values directive.key = under directive settings := by
  have read : (fun pair : Text × Text => decide (pair.1 = directive.key)) =
      fun pair => decide (Directive.ofKey pair.1 = directive) := by
    funext pair
    rw [decide_eq_decide]
    exact Directive.eq_key_iff proper
  rw [Params.values_ofPairs, read, filter_map_pair regular (· = directive), List.map_map]
  rfl

/-- Filters that stand together by column are judged one by one. -/
theorem columnVerdicts_ofPairs {pick : Directive → Option Text} {single : Text → Directive}
    {predicates : List Predicate} (regular : ∀ setting ∈ settings, setting.Regular)
    (picked : ∀ column, pick (single column) = some column)
    (only : settings.filter (fun setting => (pick setting.1).isSome) =
      predicates.map fun p => (single p.column, p.filterText))
    (together : Contiguous (predicates.map fun p => (single p.column).key))
    (writable : ∀ p ∈ predicates, p.Writable) :
    (Params.ofPairs (settings.map pair)).columnVerdicts pick = predicates.map .kept := by
  have filtered : (settings.map pair).filter
      (fun pair => (pick (Directive.ofKey pair.1)).isSome) =
        predicates.map fun p => ((single p.column).key, p.filterText) := by
    rw [filter_map_pair regular fun directive => (pick directive).isSome, only, List.map_map]
    rfl
  have keys : ∀ p ∈ predicates, Directive.ofKey (single p.column).key = single p.column := by
    intro p hp
    have mem : (single p.column, p.filterText) ∈ settings.filter fun s => (pick s.1).isSome :=
      only ▸ List.mem_map_of_mem hp
    exact regular _ (List.mem_of_mem_filter mem)
  rw [Params.columnVerdicts_ofPairs, filtered, List.flatMap_map, List.map_eq_flatMap]
  · refine List.flatMap_congr fun p hp => ?_
    rw [keys p hp, picked, Option.toList_some, List.map_singleton,
      Predicate.judgeFilter_filterText (writable p hp)]
  · rw [filtered, List.map_map]
    exact together

end Setting

/-! ## Written queries -/

/-- The directive of a group. -/
def Combinator.directive : Combinator → Directive
  | and => .and
  | or => .or

/-- A condition is asked for by a group, or by a filter under the directive of its column. -/
def Condition.setting (single : Text → Directive) : Condition → Setting
  | predicate p => (single p.column, p.filterText)
  | group g => (g.combinator.directive, g.text)

/-- One value for all pieces, and none without pieces. -/
def joined (pieces : List Text) : List Text :=
  if pieces = [] then [] else [[','].intercalate pieces]

/-- What is made of the one value is made of no value, too. -/
theorem flatMap_joined {α : Type} {read : Text → List α} (h : read [] = []) (pieces : List Text) :
    (joined pieces).flatMap read = read ([','].intercalate pieces) := by
  unfold joined
  split
  · next none_joined =>
    rw [none_joined]
    exact h.symm
  · simp

namespace Query

/-- What asks for the query. -/
def settings (q : Query) : List Setting :=
  q.conditions.map (Condition.setting .filter) ++
    q.joins.map (fun j => (.join, j.text)) ++
    (joined (q.projection.map Projection.text)).map (fun value => (.select, value)) ++
    (List.replicate q.exclude.toNat []).map (fun value => (.exclude, value)) ++
    q.window.limit.toList.map (fun n => (.limit, n.toText)) ++
    q.window.offset.toList.map (fun n => (.offset, n.toText)) ++
    q.order.toList.map (fun key => (.orderBy, key.column)) ++
    q.order.toList.map (fun key => (.order, key.direction.text)) ++
    (joined q.grouping).map (fun value => (.groupBy, value)) ++
    q.having.map (Condition.setting .having)

/-- The query as parameters, pair by pair. -/
def pairs (q : Query) : List (Text × Text) := q.settings.map Setting.pair

/-- Conditions on rows in the order in which they are read: groups of which some member holds,
groups of which all members hold, and single predicates column by column. -/
structure Layout (conditions : List Condition) (anyOf allOf : List (List Predicate))
    (single : List Predicate) : Prop where
  /-- Groups come before single predicates. -/
  order : conditions =
    anyOf.map (fun members => .group ⟨.or, members⟩) ++
      allOf.map (fun members => .group ⟨.and, members⟩) ++ single.map .predicate
  /-- A group has members, and each of them can be written as a term. -/
  groups : ∀ members ∈ anyOf ++ allOf, members ≠ [] ∧ ∀ p ∈ members, p.Groupable
  /-- A single predicate can be written as a filter. -/
  writable : ∀ p ∈ single, p.Writable
  /-- Its column does not look like a directive. -/
  plain : ∀ p ∈ single, p.column ∉ Directive.proper.map Directive.key ∧
    ¬ Directive.havingMark <+: p.column
  /-- The predicates of one column stand together. -/
  together : Contiguous (single.map Predicate.column)

/-- The query can be written. -/
structure Expressible (q : Query) : Prop where
  /-- The conditions on rows are in order. -/
  conditions : ∃ anyOf allOf single, Layout q.conditions anyOf allOf single
  /-- The joins are well formed. -/
  joins : ∀ j ∈ q.joins, j.WellFormed
  /-- The entries of the select list can be written. -/
  projection : ∀ p ∈ q.projection, p.Writable
  /-- The sort key is an identifier. -/
  order : ∀ key ∈ q.order, isIdentifier key.column = true
  /-- So are the columns to group by. -/
  grouping : ∀ column ∈ q.grouping, isIdentifier column = true
  /-- The conditions on groups of rows are single predicates, column by column. -/
  having : ∃ single : List Predicate, q.having = single.map .predicate ∧
    (∀ p ∈ single, p.Writable) ∧ Contiguous (single.map Predicate.column)

end Query

/-! ## Values that are kept -/

namespace Params

variable {p : Params}

theorem groupVerdicts_of_values {anyOf allOf : List (List Predicate)}
    (or : p.values Directive.or.key = anyOf.map fun members => Group.text ⟨.or, members⟩)
    (and : p.values Directive.and.key = allOf.map fun members => Group.text ⟨.and, members⟩)
    (groupable : ∀ members ∈ anyOf ++ allOf, ∀ member ∈ members, member.Groupable) :
    p.groupVerdicts = (anyOf.map (Group.mk .or) ++ allOf.map (Group.mk .and)).map fun g =>
      (g.combinator, g.members.map .kept) := by
  have judged : ∀ combinator, ∀ members ∈ anyOf ++ allOf,
      (Text.terms (Text.unwrap (Text.trim (Group.text ⟨combinator, members⟩)))).map
        Predicate.judgeTerm = members.map .kept :=
    fun _ members mem => Group.judge_text (groupable members mem)
  rw [groupVerdicts, groups, or, and]
  simp only [List.map_append, List.map_map]
  congr 1
  · refine List.map_congr_left fun members mem => ?_
    exact congrArg (Prod.mk _) (judged .or members (List.mem_append_left allOf mem))
  · refine List.map_congr_left fun members mem => ?_
    exact congrArg (Prod.mk _) (judged .and members (List.mem_append_right anyOf mem))

theorem joinVerdicts_of_values {joins : List Join}
    (h : p.values Directive.join.key = joins.map Join.text)
    (wellFormed : ∀ j ∈ joins, j.WellFormed) :
    p.joinVerdicts = joins.map .kept := by
  rw [joinVerdicts, h, List.map_map]
  exact List.map_congr_left fun j hj => Join.judge_text (wellFormed j hj)

theorem projectionVerdicts_of_values {projection : List Projection}
    (h : p.values Directive.select.key = joined (projection.map Projection.text))
    (writable : ∀ entry ∈ projection, entry.Writable) :
    p.projectionVerdicts = projection.map .kept := by
  rw [projectionVerdicts, h, flatMap_joined rfl]
  exact Projection.map_judge_terms writable

theorem countVerdicts_of_values {key : Text} {count : Option Count}
    (h : p.values key = count.toList.map Count.toText) :
    p.countVerdicts key = count.toList.map .kept := by
  rw [countVerdicts, last?, h]
  cases count with
  | none => rfl
  | some n => simp [Count.judge_toText]

theorem orderVerdicts_of_values {order : Option SortKey}
    (orderBy : p.values Directive.orderBy.key = order.toList.map SortKey.column)
    (sense : p.values Directive.order.key = order.toList.map fun key => key.direction.text)
    (valid : ∀ key ∈ order, isIdentifier key.column = true) :
    p.orderVerdicts = order.toList.map .kept := by
  rw [orderVerdicts, direction, last?, last?, orderBy, sense]
  cases order with
  | none => rfl
  | some key =>
    obtain ⟨column, direction⟩ := key
    have identifier : isIdentifier column = true := valid _ rfl
    obtain ⟨trimmed, ne⟩ := isTrimmed_of_isIdentifier identifier
    have kept : ∀ d : Direction, SortKey.judge column d = .kept ⟨column, d⟩ := by
      intro d
      rw [SortKey.judge, checkIdentifier, if_pos identifier]
      rfl
    -- Only `desc` is read as descending, and that is how descending is written.
    cases direction <;> simp [Text.trim_eq_self_iff.2 trimmed, ne, kept, Direction.text]

theorem groupingVerdicts_of_values {columns : List Text}
    (h : p.values Directive.groupBy.key = joined columns)
    (valid : ∀ column ∈ columns, isIdentifier column = true) :
    p.groupingVerdicts = columns.map .kept := by
  rw [groupingVerdicts, h, flatMap_joined rfl, items_columns valid]
  refine List.map_congr_left fun column mem => ?_
  rw [checkIdentifier, if_pos (valid column mem)]
  rfl

end Params

/-! ## What is read back -/

theorem Verdict.keptOf_map_kept {α : Type} (items : List α) : keptOf (items.map .kept) = items := by
  induction items with
  | nil => rfl
  | cons item rest ih => rw [List.map_cons, keptOf, List.filterMap_cons, kept?, ← keptOf, ih]

theorem Verdict.refusal?_of_mem_map_kept {α : Type} {items : List α} {v : Verdict α}
    (h : v ∈ items.map .kept) : v.refusal? = none := by
  obtain ⟨item, -, rfl⟩ := List.mem_map.1 h
  rfl

/-- Parameters list a query when every item that they list is kept and these are the items of the
query. -/
structure Params.Lists (p : Params) (q : Query) (grouped : List Group)
    (onRows onGroups : List Predicate) : Prop where
  /-- The conditions on rows are the groups before the single predicates. -/
  conditions : q.conditions = grouped.map .group ++ onRows.map .predicate
  /-- The conditions on groups of rows are single predicates. -/
  conditionsOnGroups : q.having = onGroups.map .predicate
  /-- No group is dropped. -/
  members : ∀ g ∈ grouped, g.members ≠ []
  /-- The terms of groups are kept. -/
  groups : p.groupVerdicts = grouped.map fun g => (g.combinator, g.members.map .kept)
  /-- So are the joins. -/
  joins : p.joinVerdicts = q.joins.map .kept
  /-- So is the select list. -/
  projection : p.projectionVerdicts = q.projection.map .kept
  /-- The wildcard flag is the same. -/
  exclude : p.contains Directive.exclude.key = q.exclude
  /-- The limit is kept. -/
  limit : p.countVerdicts Directive.limit.key = q.window.limit.toList.map .kept
  /-- So is the offset. -/
  offset : p.countVerdicts Directive.offset.key = q.window.offset.toList.map .kept
  /-- So is the sort key. -/
  order : p.orderVerdicts = q.order.toList.map .kept
  /-- So are the columns to group by. -/
  grouping : p.groupingVerdicts = q.grouping.map .kept
  /-- So are the filters on groups of rows. -/
  having : p.havingVerdicts = onGroups.map .kept
  /-- So are the filters on rows. -/
  filters : p.filterVerdicts = onRows.map .kept

namespace Params.Lists

variable {p : Params} {q : Query} {grouped : List Group} {onRows onGroups : List Predicate}

theorem accepted (h : p.Lists q grouped onRows onGroups) : p.Accepted where
  groups := by
    rw [h.groups]
    refine List.forall_mem_map.2 fun g _ v hv => ?_
    exact Verdict.refusal?_of_mem_map_kept hv
  joins := fun _ hv => Verdict.refusal?_of_mem_map_kept (h.joins ▸ hv)
  projection := fun _ hv => Verdict.refusal?_of_mem_map_kept (h.projection ▸ hv)
  order := fun _ hv => Verdict.refusal?_of_mem_map_kept (h.order ▸ hv)
  grouping := fun _ hv => Verdict.refusal?_of_mem_map_kept (h.grouping ▸ hv)
  having := fun _ hv => Verdict.refusal?_of_mem_map_kept (h.having ▸ hv)
  filters := fun _ hv => Verdict.refusal?_of_mem_map_kept (h.filters ▸ hv)

theorem keptGroups (h : p.Lists q grouped onRows onGroups) :
    Query.keptGroups p = grouped.map .group := by
  rw [Query.keptGroups, h.groups, List.map_map, List.filterMap_map]
  refine .trans (List.filterMap_congr fun g hg => ?_) (congrFun List.filterMap_eq_map grouped)
  simp only [Function.comp_apply, Verdict.keptOf_map_kept, if_neg (h.members g hg)]

/-- What is kept of the parameters is the query. -/
theorem kept (h : p.Lists q grouped onRows onGroups) : Query.kept p = q := by
  apply Part.eq_of_same
  intro part
  cases part with
  | conditions =>
    show Query.keptGroups p ++ (Verdict.keptOf p.filterVerdicts).map .predicate = q.conditions
    rw [h.keptGroups, h.filters, Verdict.keptOf_map_kept, h.conditions]
  | joins =>
    show Verdict.keptOf p.joinVerdicts = q.joins
    rw [h.joins, Verdict.keptOf_map_kept]
  | projection =>
    show Verdict.keptOf p.projectionVerdicts = q.projection
    rw [h.projection, Verdict.keptOf_map_kept]
  | exclude => exact h.exclude
  | window =>
    show Window.mk _ _ = q.window
    rw [h.limit, h.offset, Verdict.keptOf_map_kept, Verdict.keptOf_map_kept, Option.head?_toList,
      Option.head?_toList]
  | order =>
    show (Verdict.keptOf p.orderVerdicts).head? = q.order
    rw [h.order, Verdict.keptOf_map_kept, Option.head?_toList]
  | grouping =>
    show Verdict.keptOf p.groupingVerdicts = q.grouping
    rw [h.grouping, Verdict.keptOf_map_kept]
  | having =>
    show (Verdict.keptOf p.havingVerdicts).map .predicate = q.having
    rw [h.having, Verdict.keptOf_map_kept, h.conditionsOnGroups]

theorem ofParams (h : p.Lists q grouped onRows onGroups) : Query.ofParams p = .ok q :=
  Query.ofParams_eq_ok_iff.2 ⟨Query.refusal?_eq_none_iff.2 h.accepted, h.kept.symm⟩

end Params.Lists

namespace Query

variable {q : Query} {anyOf allOf : List (List Predicate)} {single onGroups : List Predicate}

/-- What stands under the directives proper. -/
theorem under_settings (layout : Layout q.conditions anyOf allOf single)
    (having : q.having = onGroups.map .predicate) :
    Setting.under .or q.settings = anyOf.map (fun members => Group.text ⟨.or, members⟩) ∧
      Setting.under .and q.settings = allOf.map (fun members => Group.text ⟨.and, members⟩) ∧
      Setting.under .join q.settings = q.joins.map Join.text ∧
      Setting.under .select q.settings = joined (q.projection.map Projection.text) ∧
      Setting.under .exclude q.settings = List.replicate q.exclude.toNat [] ∧
      Setting.under .limit q.settings = q.window.limit.toList.map Count.toText ∧
      Setting.under .offset q.settings = q.window.offset.toList.map Count.toText ∧
      Setting.under .orderBy q.settings = q.order.toList.map SortKey.column ∧
      Setting.under .order q.settings = q.order.toList.map (fun key => key.direction.text) ∧
      Setting.under .groupBy q.settings = joined q.grouping := by
  simp [settings, layout.order, having, Condition.setting, Combinator.directive, Function.comp_def,
    -List.map_replicate]

/-- The filters on rows are the single predicates. -/
theorem filter_rowColumn (layout : Layout q.conditions anyOf allOf single)
    (having : q.having = onGroups.map .predicate) :
    q.settings.filter (fun setting => setting.1.rowColumn?.isSome) =
      single.map fun p => (.filter p.column, p.filterText) := by
  simp [settings, layout.order, having, Condition.setting, Combinator.directive, Function.comp_def,
    List.filter_map, Directive.rowColumn?, -List.map_replicate]

/-- The filters on groups of rows are the predicates on them. -/
theorem filter_groupColumn (layout : Layout q.conditions anyOf allOf single)
    (having : q.having = onGroups.map .predicate) :
    q.settings.filter (fun setting => setting.1.groupColumn?.isSome) =
      onGroups.map fun p => (.having p.column, p.filterText) := by
  simp [settings, layout.order, having, Condition.setting, Combinator.directive, Function.comp_def,
    List.filter_map, Directive.groupColumn?, -List.map_replicate]

/-- Every setting of a query is found under its key again. -/
theorem regular_of_mem_settings (layout : Layout q.conditions anyOf allOf single)
    (having : q.having = onGroups.map .predicate) :
    ∀ setting ∈ q.settings, setting.Regular := by
  have proper : ∀ d ∈ Directive.proper, ∀ value, Setting.Regular (d, value) := fun _ h _ =>
    Directive.ofKey_key h
  simp only [settings, layout.order, having, List.map_append, List.map_map, List.forall_mem_append,
    List.forall_mem_map, and_assoc]
  refine ⟨fun _ _ => proper .or (by decide) _, fun _ _ => proper .and (by decide) _, ?_,
    fun _ _ => proper .join (by decide) _, fun _ _ => proper .select (by decide) _,
    fun _ _ => proper .exclude (by decide) _, fun _ _ => proper .limit (by decide) _,
    fun _ _ => proper .offset (by decide) _, fun _ _ => proper .orderBy (by decide) _,
    fun _ _ => proper .order (by decide) _, fun _ _ => proper .groupBy (by decide) _, ?_⟩
  · intro p hp
    obtain ⟨named, unmarked⟩ := layout.plain p hp
    exact Directive.ofKey_filter named unmarked
  · exact fun p _ => Directive.ofKey_having p.column

/-- The parameters that a query is written as list the query. -/
theorem Expressible.lists {q : Query} (h : q.Expressible) :
    ∃ grouped onRows onGroups, (Params.ofPairs q.pairs).Lists q grouped onRows onGroups := by
  obtain ⟨anyOf, allOf, single, layout⟩ := h.conditions
  obtain ⟨onGroups, having, writable, together⟩ := h.having
  have regular := regular_of_mem_settings layout having
  have values : ∀ directive ∈ Directive.proper,
      (Params.ofPairs q.pairs).values directive.key = Setting.under directive q.settings :=
    fun directive proper => Setting.values_ofPairs regular proper
  obtain ⟨or, and, join, select, exclude, limit, offset, orderBy, order, groupBy⟩ :=
    under_settings layout having
  refine ⟨anyOf.map (Group.mk .or) ++ allOf.map (Group.mk .and), single, onGroups,
    { conditions := ?_, conditionsOnGroups := having, members := ?_, groups := ?_, joins := ?_,
      projection := ?_, exclude := ?_, limit := ?_, offset := ?_, order := ?_, grouping := ?_,
      having := ?_, filters := ?_ }⟩
  · rw [layout.order, List.map_append, List.map_map, List.map_map]
    rfl
  · intro g hg
    rcases List.mem_append.1 hg with hg | hg
    · obtain ⟨members, mem, rfl⟩ := List.mem_map.1 hg
      exact (layout.groups members (List.mem_append_left allOf mem)).1
    · obtain ⟨members, mem, rfl⟩ := List.mem_map.1 hg
      exact (layout.groups members (List.mem_append_right anyOf mem)).1
  · exact Params.groupVerdicts_of_values ((values .or (by decide)).trans or)
      ((values .and (by decide)).trans and) fun members mem => (layout.groups members mem).2
  · exact Params.joinVerdicts_of_values ((values .join (by decide)).trans join) h.joins
  · exact Params.projectionVerdicts_of_values ((values .select (by decide)).trans select)
      h.projection
  · rw [Bool.eq_iff_iff, Params.contains_eq_true_iff, values .exclude (by decide), exclude]
    cases q.exclude <;> decide
  · exact Params.countVerdicts_of_values ((values .limit (by decide)).trans limit)
  · exact Params.countVerdicts_of_values ((values .offset (by decide)).trans offset)
  · exact Params.orderVerdicts_of_values ((values .orderBy (by decide)).trans orderBy)
      ((values .order (by decide)).trans order) h.order
  · exact Params.groupingVerdicts_of_values ((values .groupBy (by decide)).trans groupBy) h.grouping
  · rw [Params.havingVerdicts_eq]
    refine Setting.columnVerdicts_ofPairs regular (fun _ => rfl)
      (filter_groupColumn layout having) ?_ writable
    have marked : ∀ a b : Text, Directive.havingMark ++ a = Directive.havingMark ++ b → a = b :=
      fun _ _ => List.append_cancel_left
    have keys := together.map marked
    rwa [List.map_map] at keys
  · rw [Params.filterVerdicts_eq]
    exact Setting.columnVerdicts_ofPairs regular (fun _ => rfl) (filter_rowColumn layout having)
      layout.together layout.writable

/-- Every query that can be written is read back from the parameters that it is written as, and
from all that give every part the same to read. -/
theorem ofParams_pairs {q : Query} (h : q.Expressible) :
    ofParams (Params.ofPairs q.pairs) = .ok q ∧
      ∀ p : Params, (∀ part : Part, part.Agree p (Params.ofPairs q.pairs)) →
        ofParams p = .ok q := by
  obtain ⟨grouped, onRows, onGroups, lists⟩ := h.lists
  exact ⟨lists.ofParams, fun p agree => (ofParams_congr agree).trans lists.ofParams⟩

/-- Dots, commas and parentheses in literals, lists in groups and calls in the select list do not
get in the way, and the keys may be turned around. -/
theorem ofParams_pairs_nested :
    let q : Query :=
      { conditions := [
          .group ⟨.or, [⟨"a", .eq, .single "x.(1,2)"⟩, ⟨"b", .isIn, .list ["p", "q(r)"]⟩]⟩,
          .group ⟨.and, [⟨"c", .like, .single []⟩]⟩,
          .predicate ⟨"t.d", .isIn, .list ["(u", "v)"]⟩,
          .predicate ⟨"t.d", .neq, .single " ,"⟩]
        joins := [⟨"s.o", ["u.id", "o.uid"]⟩]
        projection := [.wildcard, .column "a", .expression "sum(x, y) as z"]
        exclude := true
        window := ⟨some 18446744073709551615, none⟩
        order := some ⟨"u.a", .desc⟩
        grouping := ["a", "b"]
        having := [.predicate ⟨"n", .gt, .single "1"⟩] }
    let pairs : List (Text × Text) :=
      [("or", "(a.eq.x.(1,2),b.in.(p,q(r)))"), ("and", "(c.like.)"), ("t.d", "in.((u,v))"),
        ("t.d", "neq. ,"), ("join", "s.o:on=u.id=o.uid"), ("select", "*,a,sum(x, y) as z"),
        ("exclude", ""), ("limit", "18446744073709551615"), ("orderBy", "u.a"),
        ("order", "desc"), ("group_by", "a,b"), ("having.n", "gt.1")]
    q.Expressible ∧ q.pairs = pairs ∧ ofParams (Params.ofPairs pairs) = .ok q ∧
      ofParams (Params.ofPairs (pairs.rotate 7)) = .ok q := by
  intro q pairs
  have layout : Layout q.conditions
      [[⟨"a", .eq, .single "x.(1,2)"⟩, ⟨"b", .isIn, .list ["p", "q(r)"]⟩]]
      [[⟨"c", .like, .single []⟩]]
      [⟨"t.d", .isIn, .list ["(u", "v)"]⟩, ⟨"t.d", .neq, .single " ,"⟩] :=
    { order := rfl
      groups := by decide +kernel
      writable := by decide +kernel
      plain := by decide +kernel
      together := by decide +kernel }
  have expressible : q.Expressible :=
    { conditions := ⟨_, _, _, layout⟩
      joins := List.forall_mem_singleton.2 ⟨by decide, by decide, by decide⟩
      projection := by decide +kernel
      order := fun key mem => by
        cases mem
        decide
      grouping := by decide
      having := ⟨[⟨"n", .gt, .single "1"⟩], rfl, by decide +kernel, by decide⟩ }
  have written : q.pairs = pairs := by decide +kernel
  obtain ⟨read, others⟩ := ofParams_pairs expressible
  rw [written] at read others
  refine ⟨expressible, written, read, others _ fun part => ?_⟩
  cases part <;> decide +kernel

end Query

end FilterSql
