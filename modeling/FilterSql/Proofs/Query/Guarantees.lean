/-
# FilterSql.Proofs.Query.Guarantees -- what the writer of a statement may rely on

The writer of SQL text answers for every query, also for groups without members, empty lists and
columns that are no names. That none of these ever reaches it is up to the reader of parameters, and
`Query.Guaranteed` lists what the reader promises about a query and the parameters it was read from.

The shape of the conditions is part of it, and so is where the single predicates come from: they are
read off the keys that are neither directives nor filters on groups of rows, pair by pair and in
order. Of the items more is known than that they are well formed: those of a list are trimmed, not
empty and without commas, columns in groups have no dot, and an expression bears a mark that tells
it from a column.
-/

import FilterSql.Proofs.Query.LastValues
import FilterSql.Proofs.Query.RoundTrip

namespace FilterSql

/-! ## Items that are kept -/

/-- What is read can be written. -/
theorem Operand.writable_of_ofText? {operator : Operator} {s : Text} {operand : Operand}
    (h : ofText? operator s = some operand) : operand.Writable operator := by
  unfold ofText? at h
  split at h
  · next isIn =>
    split at h
    · cases h
    · next item rest read =>
      cases h
      refine ⟨isIn, by simp, fun i mem => ?_⟩
      rw [← read] at mem
      exact Text.regular_of_mem_items mem
  · next other =>
    cases h
    exact other

namespace Predicate

theorem writable_of_judge {column operator value : Text} {p : Predicate}
    (h : judge column operator value = .kept p) : p.Writable ∧ p.column = column := by
  obtain ⟨-, operand, valid, rfl⟩ := judge_eq_kept_iff.1 h
  exact ⟨⟨valid, Operand.writable_of_ofText? operand⟩, rfl⟩

theorem writable_of_judgeFilter {column value : Text} {p : Predicate}
    (h : judgeFilter column value = .kept p) : p.Writable := by
  unfold judgeFilter at h
  split at h
  · cases h
  · exact (writable_of_judge h).1

/-- The column of a term ends before its first dot. -/
theorem writable_of_judgeTerm {term : Text} {p : Predicate} (h : judgeTerm term = .kept p) :
    p.Writable ∧ '.' ∉ p.column := by
  unfold judgeTerm at h
  split at h
  · cases h
  · next column value cut =>
    split at h
    · cases h
    · obtain ⟨writable, same⟩ := writable_of_judge h
      exact ⟨writable, same ▸ not_mem_of_cut? cut⟩

end Predicate

namespace Projection

/-- The text shows that it is none of the table's columns: by a dot, by a parenthesis, or by the
alias keyword between two spaces, in any case. -/
def Marked (text : Text) : Prop :=
  '.' ∈ text ∨ '(' ∈ text ∨ ')' ∈ text ∨ " as ".toList <:+: Text.lower text

theorem marked_of_isPassthrough {piece : Text} (h : isPassthrough piece = true) :
    Marked piece := by
  simp only [isPassthrough, Bool.or_eq_true, List.contains_iff_mem] at h
  rcases h with ((dot | opening) | closing) | aliased
  · exact .inl dot
  · exact .inr (.inl opening)
  · exact .inr (.inr (.inl closing))
  · obtain ⟨halves, cut⟩ := Option.isSome_iff_exists.1 aliased
    exact .inr (.inr (.inr ⟨halves.1, halves.2, (eq_append_of_cut? cut).symm⟩))

/-- What each kind of entry is known to be. -/
def Guaranteed : Projection → Prop
  | wildcard => True
  | column name => isIdentifier name = true ∧ '.' ∉ name
  | expression text => Text.IsTrimmed text ∧ isExpression text = true ∧ Marked text

theorem guaranteed_of_judge {piece : Text} {p : Projection} (trimmed : Text.IsTrimmed piece)
    (h : judge piece = .kept p) : p.Guaranteed := by
  unfold judge at h
  split at h
  · cases h
    trivial
  · split at h
    · next passthrough =>
      obtain ⟨text, kept, rfl⟩ := Verdict.map_eq_kept_iff.1 h
      rw [Verdict.ofExcept_eq_kept_iff, checkExpression] at kept
      split at kept
      · next accepted =>
        cases kept
        exact ⟨trimmed, accepted, marked_of_isPassthrough passthrough⟩
      · cases kept
    · next plain =>
      obtain ⟨name, kept, rfl⟩ := Verdict.map_eq_kept_iff.1 h
      rw [Verdict.ofExcept_eq_kept_iff, checkIdentifier_eq_ok_iff] at kept
      obtain ⟨valid, rfl⟩ := kept
      refine ⟨valid, fun dot => plain ?_⟩
      simp [isPassthrough, dot]

end Projection

/-! ## Where the conditions come from -/

namespace Directive

/-- A key filters rows when it is neither that of a directive nor one that filters groups. -/
theorem rowColumn?_ofKey (k : Text) :
    (ofKey k).rowColumn? =
      if ¬ (proper.map key).contains k ∧ ¬ havingMark <+: k then some k else none := by
  by_cases directive : (proper.map key).contains k
  · obtain ⟨d, mem, rfl⟩ := List.mem_map.1 (List.contains_iff_mem.1 directive)
    have none : ∀ d ∈ proper, d.rowColumn? = none := by decide
    rw [ofKey_key mem, none d mem, if_neg fun h => h.1 directive]
  · have other : k ∉ proper.map key := fun mem => directive (List.contains_iff_mem.2 mem)
    simp only [ofKey_of_not_mem other, List.isPrefixOf_iff_prefix]
    by_cases marked : havingMark <+: k
    · rw [if_pos marked, if_neg fun h => h.2 marked]
      rfl
    · rw [if_neg marked, if_pos ⟨directive, marked⟩]
      rfl

/-- A key filters groups by the column behind the mark that it begins with. -/
theorem groupColumn?_ofKey (k : Text) :
    (ofKey k).groupColumn? =
      if havingMark <+: k then some (k.drop havingMark.length) else none := by
  by_cases directive : k ∈ proper.map key
  · obtain ⟨d, mem, rfl⟩ := List.mem_map.1 directive
    have none : ∀ d ∈ proper, d.groupColumn? = none ∧ ¬ havingMark <+: d.key := by decide
    rw [ofKey_key mem, (none d mem).1, if_neg (none d mem).2]
  · simp only [ofKey_of_not_mem directive, List.isPrefixOf_iff_prefix]
    split <;> rfl

end Directive

namespace Params

/-- What the values under the keys that filter rows ask for, pair by pair. -/
def rowPredicates (p : Params) : List Predicate :=
  (p.pairs.filter fun pair =>
      ¬ (Directive.proper.map Directive.key).contains pair.1 ∧
        ¬ Directive.havingMark <+: pair.1).filterMap
    fun pair => (Predicate.judgeFilter pair.1 pair.2).kept?

/-- What the values under the keys that filter groups of rows ask for, pair by pair. -/
def groupPredicates (p : Params) : List Predicate :=
  (p.pairs.filter fun pair => Directive.havingMark <+: pair.1).filterMap
    fun pair =>
      (Predicate.judgeFilter (pair.1.drop Directive.havingMark.length) pair.2).kept?

theorem keptOf_columnVerdicts (p : Params) (pick : Directive → Option Text) :
    Verdict.keptOf (p.columnVerdicts pick) = p.pairs.filterMap fun pair =>
      (pick (Directive.ofKey pair.1)).bind fun column =>
        (Predicate.judgeFilter column pair.2).kept? := by
  rw [columnVerdicts_eq_pairs, Verdict.keptOf, List.filterMap_flatMap,
    List.filterMap_eq_flatMap_toList]
  refine List.flatMap_congr fun pair _ => ?_
  cases pick (Directive.ofKey pair.1) with
  | none => rfl
  | some column =>
    show List.filterMap Verdict.kept? [Predicate.judgeFilter column pair.2] = _
    rw [List.filterMap_eq_flatMap_toList, List.flatMap_singleton]
    rfl

theorem keptOf_filterVerdicts (p : Params) :
    Verdict.keptOf p.filterVerdicts = p.rowPredicates := by
  rw [filterVerdicts_eq, keptOf_columnVerdicts, rowPredicates, List.filterMap_filter]
  refine List.filterMap_congr fun pair _ => ?_
  rw [Directive.rowColumn?_ofKey]
  split
  · next row => rw [if_pos (decide_eq_true row)]; rfl
  · next other => rw [if_neg (by simpa using other)]; rfl

theorem keptOf_havingVerdicts (p : Params) :
    Verdict.keptOf p.havingVerdicts = p.groupPredicates := by
  rw [havingVerdicts_eq, keptOf_columnVerdicts, groupPredicates, List.filterMap_filter]
  refine List.filterMap_congr fun pair _ => ?_
  rw [Directive.groupColumn?_ofKey]
  split
  · next marked => rw [if_pos (decide_eq_true marked)]; rfl
  · next other => rw [if_neg (by simpa using other)]; rfl

end Params

namespace Query

/-! ## Groups -/

/-- The members of the groups that the values of a key ask for, value by value; a value of which no
term is kept asks for none. -/
def groupMembers (p : Params) (key : Text) : List (List Predicate) :=
  ((p.values key).map fun value => Verdict.keptOf
    ((Text.terms (Text.unwrap (Text.trim value))).map Predicate.judgeTerm)).filter (· ≠ [])

/-- The values of a key make groups under one combinator. -/
theorem filterMap_groupCondition? (combinator : Combinator)
    (judge : Text → List (Verdict Predicate)) (values : List Text) :
    (values.map fun value => (combinator, judge value)).filterMap groupCondition? =
      ((values.map fun value => Verdict.keptOf (judge value)).filter (· ≠ [])).map
        fun members => .group ⟨combinator, members⟩ := by
  rw [List.filterMap_map, ← List.filterMap_eq_map, List.filterMap_filter, List.filterMap_map]
  refine List.filterMap_congr fun value _ => ?_
  by_cases empty : Verdict.keptOf (judge value) = [] <;> simp [groupCondition?, empty]

/-- The groups of alternatives stand before those of demands. -/
theorem keptGroups_eq_groupMembers (p : Params) :
    keptGroups p =
      (groupMembers p Directive.or.key).map (fun members => .group ⟨.or, members⟩) ++
        (groupMembers p Directive.and.key).map fun members => .group ⟨.and, members⟩ := by
  rw [keptGroups_eq, Params.groupVerdicts, Params.groups, List.map_append, List.map_map,
    List.map_map, List.filterMap_append, groupMembers, groupMembers]
  exact congrArg₂ (· ++ ·) (filterMap_groupCondition? .or _ _) (filterMap_groupCondition? .and _ _)

theorem writable_of_mem_groupMembers {p : Params} {key : Text} {members : List Predicate}
    (h : members ∈ groupMembers p key) :
    members ≠ [] ∧ ∀ s ∈ members, s.Writable ∧ '.' ∉ s.column := by
  obtain ⟨mem, ne⟩ := List.mem_filter.1 h
  obtain ⟨value, -, rfl⟩ := List.mem_map.1 mem
  refine ⟨of_decide_eq_true ne, fun s hs => ?_⟩
  obtain ⟨term, -, kept⟩ := List.mem_map.1 (Verdict.mem_keptOf.1 hs)
  exact Predicate.writable_of_judgeTerm kept

/-! ## Queries -/

/-- What is promised of a query that was read from parameters. -/
structure Guaranteed (p : Params) (q : Query) : Prop where
  /-- The conditions are groups of alternatives, groups of demands and single predicates, in this
  order. No group is without members, and the columns of members are not qualified. The single
  predicates are those of the keys that are neither directives nor filters on groups of rows. -/
  conditions : ∃ anyOf allOf : List (List Predicate),
    q.conditions = anyOf.map (fun members => .group ⟨.or, members⟩) ++
      allOf.map (fun members => .group ⟨.and, members⟩) ++ p.rowPredicates.map .predicate ∧
    ∀ members ∈ anyOf ++ allOf, members ≠ [] ∧ ∀ s ∈ members, s.Writable ∧ '.' ∉ s.column
  /-- Columns are identifiers; `in` comes with items that are trimmed, not empty and without commas,
  every other operator with one literal. -/
  rowPredicates : ∀ s ∈ p.rowPredicates, s.Writable
  /-- Groups of rows are filtered by single predicates, of the keys that say so. -/
  having : q.having = p.groupPredicates.map .predicate
  /-- They are like those on rows. -/
  groupPredicates : ∀ s ∈ p.groupPredicates, s.Writable
  /-- The table of a join and its operands, two or more, are identifiers. -/
  joins : ∀ j ∈ q.joins, j.WellFormed
  /-- Columns are identifiers without a dot, expressions are trimmed, accepted and marked. -/
  projection : ∀ entry ∈ q.projection, entry.Guaranteed
  /-- The sort column is an identifier. -/
  order : ∀ key ∈ q.order, isIdentifier key.column = true
  /-- There is one exactly when the last value given for it is not blank. -/
  ordered : q.order.isSome ↔ ∃ value ∈ p.last? Directive.orderBy.key, ¬ Text.Blank value
  /-- The columns to group by are identifiers. -/
  grouping : ∀ column ∈ q.grouping, isIdentifier column = true

theorem writable_of_mem_columnVerdicts {p : Params} {pick : Directive → Option Text}
    {s : Predicate} (h : .kept s ∈ p.columnVerdicts pick) : s.Writable := by
  obtain ⟨entry, -, column, -, value, -, h⟩ := Params.mem_columnVerdicts.1 h
  exact Predicate.writable_of_judgeFilter h

/-- Whatever query is read from parameters keeps the promises. -/
theorem guaranteed_of_ofParams {p : Params} {q : Query} (h : ofParams p = .ok q) :
    q.Guaranteed p := by
  have wellFormed := wellFormed_of_ofParams h
  have order := order_of_ofParams h
  obtain ⟨-, rfl⟩ := ofParams_eq_ok_iff.1 h
  constructor
  case conditions =>
    refine ⟨groupMembers p Directive.or.key, groupMembers p Directive.and.key, ?_, ?_⟩
    · rw [kept, keptGroups_eq_groupMembers, Params.keptOf_filterVerdicts]
    · intro members mem
      rcases List.mem_append.1 mem with mem | mem
      · exact writable_of_mem_groupMembers mem
      · exact writable_of_mem_groupMembers mem
  case rowPredicates =>
    intro s hs
    rw [← Params.keptOf_filterVerdicts, Verdict.mem_keptOf, Params.filterVerdicts_eq] at hs
    exact writable_of_mem_columnVerdicts hs
  case having => rw [kept, Params.keptOf_havingVerdicts]
  case groupPredicates =>
    intro s hs
    rw [← Params.keptOf_havingVerdicts, Verdict.mem_keptOf, Params.havingVerdicts_eq] at hs
    exact writable_of_mem_columnVerdicts hs
  case joins => exact wellFormed.joins
  case projection =>
    intro entry mem
    obtain ⟨piece, hpiece, judged⟩ := List.mem_map.1 (Verdict.mem_keptOf.1 mem)
    obtain ⟨value, -, term⟩ := List.mem_flatMap.1 hpiece
    exact Projection.guaranteed_of_judge (Text.isTrimmed_of_mem_nonblank term).1 judged
  case order => exact wellFormed.order
  case ordered =>
    rw [order]
    exact Params.sortKey?_isSome_iff
  case grouping => exact wellFormed.grouping

/-- Groups of both kinds, a filter with a list and a filter on groups of rows, each with a value
that is ignored. -/
theorem guaranteed_of_ofParams_mixed :
    let p := Params.ofPairs [("c.d", "in.( x,, y )"), ("and", "(e.lt.1)"), ("having.n", "gt.2"),
      ("or", "(a.eq.1,b.in.())"), ("or", "b"), ("select", "id, name AS n"), ("orderBy", " id ")]
    ∃ q, ofParams p = .ok q ∧ q.conditions.length = 3 ∧ q.Guaranteed p := by
  intro p
  have accepted : refusal? p = none := by decide +kernel
  have read : ofParams p = .ok (kept p) := ofParams_eq_ok_iff.2 ⟨accepted, rfl⟩
  exact ⟨kept p, read, by decide +kernel, guaranteed_of_ofParams read⟩

/-- The alias keyword counts in any case, so an expression need not bear a mark before it is made
lower case. -/
theorem ofParams_capital_alias :
    let entry : Text := "name AS n"
    ∃ q, ofParams (.ofPairs [("select", entry)]) = .ok q ∧ .expression entry ∈ q.projection ∧
      ¬ ('.' ∈ entry ∨ '(' ∈ entry ∨ ')' ∈ entry ∨ " as ".toList <:+: entry) := by
  intro entry
  have accepted : refusal? (.ofPairs [("select", entry)]) = none := by decide +kernel
  exact ⟨kept (.ofPairs [("select", entry)]), ofParams_eq_ok_iff.2 ⟨accepted, rfl⟩,
    by decide +kernel, by decide +kernel⟩

end Query

end FilterSql
