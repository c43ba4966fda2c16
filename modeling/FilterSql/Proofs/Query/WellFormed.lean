/-
# FilterSql.Proofs.Query.WellFormed -- what every query read from parameters has in common

The types of queries allow more than the reader of parameters produces: columns that are no
identifiers, groups without members, a list operand under an equality. `Query.WellFormed` says what
the reader guarantees, part by part, and `wellFormed_of_ofParams` that it does so for every
parameter set. The writer of SQL text relies on all of it.

A part is well formed because each of its items was judged by itself: for each kind of item one
lemma says what a kept one looks like, and the lists of kept items add nothing to that.
-/

import Mathlib.Data.List.Basic
import FilterSql.Proofs.Alphabet
import FilterSql.Query.OfParams

namespace FilterSql

/-! ## Well-formed parts -/

/-- The operand suits the operator: a list with items for `in`, one literal for every other. -/
inductive Operand.Suits : Operator → Operand → Prop where
  /-- Items for `in`. -/
  | list {items : List Text} : items ≠ [] → Suits .isIn (.list items)
  /-- One literal for any other operator. -/
  | single {operator : Operator} {literal : Text} : operator ≠ .isIn →
      Suits operator (.single literal)

/-- The column is an identifier and the operand suits the operator. -/
structure Predicate.WellFormed (p : Predicate) : Prop where
  /-- The column is an identifier. -/
  column : isIdentifier p.column = true
  /-- The operand suits the operator. -/
  operand : Operand.Suits p.operator p.operand

/-- Every predicate is well formed, and a group has members. -/
inductive Condition.WellFormed : Condition → Prop where
  /-- A single predicate. -/
  | predicate {p : Predicate} : p.WellFormed → WellFormed (.predicate p)
  /-- A group with members. -/
  | group {g : Group} : g.members ≠ [] → (∀ p ∈ g.members, p.WellFormed) → WellFormed (.group g)

/-- The table and two or more operands are identifiers. -/
structure Join.WellFormed (j : Join) : Prop where
  /-- The table is an identifier. -/
  table : isIdentifier j.table = true
  /-- So is every operand. -/
  operands : ∀ operand ∈ j.operands, isIdentifier operand = true
  /-- There are at least two of them. -/
  two : 2 ≤ j.operands.length

/-- A column is an identifier, an expression is trimmed and accepted. -/
def Projection.WellFormed : Projection → Prop
  | wildcard => True
  | column name => isIdentifier name = true
  | expression text => isExpression text = true ∧ Text.IsTrimmed text ∧ text ≠ []

/-- Every part is well formed, and groups are not filtered by groups of conditions. -/
structure Query.WellFormed (q : Query) : Prop where
  /-- The conditions on rows. -/
  conditions : ∀ c ∈ q.conditions, c.WellFormed
  /-- The joins. -/
  joins : ∀ j ∈ q.joins, j.WellFormed
  /-- The select list. -/
  projection : ∀ p ∈ q.projection, p.WellFormed
  /-- The sort key. -/
  order : ∀ key ∈ q.order, isIdentifier key.column = true
  /-- The columns to group by. -/
  grouping : ∀ column ∈ q.grouping, isIdentifier column = true
  /-- The conditions on groups of rows. -/
  having : ∀ c ∈ q.having, c.WellFormed

/-! ## Kept items -/

namespace Verdict

variable {α β : Type}

theorem map_eq_kept_iff {f : α → β} {v : Verdict α} {b : β} :
    v.map f = .kept b ↔ ∃ a, v = .kept a ∧ f a = b := by
  cases v <;> simp [map]

theorem ofExcept_eq_kept_iff {r : Except QueryError α} {a : α} :
    ofExcept r = .kept a ↔ r = .ok a := by
  cases r <;> simp [ofExcept]

theorem mem_keptOf {a : α} {verdicts : List (Verdict α)} :
    a ∈ keptOf verdicts ↔ .kept a ∈ verdicts := by
  simp only [keptOf, List.mem_filterMap]
  constructor
  · rintro ⟨v, hv, h⟩
    cases v with
    | kept b => exact Option.some.inj h ▸ hv
    | skipped reason => cases h
    | refused error => cases h
  · exact fun h => ⟨.kept a, h, rfl⟩

end Verdict

theorem Operand.suits_of_ofText? {operator : Operator} {s : Text} {operand : Operand}
    (h : Operand.ofText? operator s = some operand) : Operand.Suits operator operand := by
  unfold Operand.ofText? at h
  split at h
  · next isIn =>
    subst isIn
    split at h
    · cases h
    · cases h
      exact .list (by simp)
  · next other =>
    cases h
    exact .single other

/-- A predicate is kept when operator and operand can be read and the column is an identifier. -/
theorem Predicate.judge_eq_kept_iff {column operator value : Text} {p : Predicate} :
    judge column operator value = .kept p ↔
      Operator.ofName? operator = some p.operator ∧
        Operand.ofText? p.operator value = some p.operand ∧ isIdentifier column = true ∧
        p.column = column := by
  obtain ⟨pColumn, pOperator, pOperand⟩ := p
  unfold judge
  cases hop : Operator.ofName? operator with
  | none => simp
  | some known =>
    dsimp only
    cases hval : Operand.ofText? known value with
    | none =>
      simp only [reduceCtorEq, false_iff, not_and]
      intro same read
      rw [Option.some.inj same, read] at hval
      cases hval
    | some operand =>
      simp only [Verdict.map_eq_kept_iff, Verdict.ofExcept_eq_kept_iff, checkIdentifier_eq_ok_iff]
      constructor
      · rintro ⟨name, ⟨valid, rfl⟩, same⟩
        cases same
        exact ⟨rfl, hval, valid, rfl⟩
      · rintro ⟨same, read, valid, rfl⟩
        cases same
        rw [hval] at read
        cases read
        exact ⟨_, ⟨valid, rfl⟩, rfl⟩

theorem Predicate.wellFormed_of_judge {column operator value : Text} {p : Predicate}
    (h : judge column operator value = .kept p) : p.WellFormed := by
  obtain ⟨-, operand, valid, same⟩ := judge_eq_kept_iff.1 h
  exact ⟨same ▸ valid, Operand.suits_of_ofText? operand⟩

theorem Predicate.wellFormed_of_judgeFilter {column value : Text} {p : Predicate}
    (h : judgeFilter column value = .kept p) : p.WellFormed := by
  unfold judgeFilter at h
  split at h
  · cases h
  · exact wellFormed_of_judge h

theorem Predicate.wellFormed_of_judgeTerm {term : Text} {p : Predicate}
    (h : judgeTerm term = .kept p) : p.WellFormed := by
  unfold judgeTerm at h
  split at h
  · cases h
  · split at h
    · cases h
    · exact wellFormed_of_judge h

theorem Join.wellFormed_of_judge {value : Text} {j : Join} (h : judge value = .kept j) :
    j.WellFormed := by
  unfold judge at h
  split at h
  · cases h
  · next table on _ =>
    dsimp only at h
    split at h
    · cases h
    · next complete =>
      split at h
      · cases h
      · next valid =>
        cases h
        -- No name was found to be none, and there were at least two operands.
        simp only [List.find?_eq_none, List.mem_cons, forall_eq_or_imp, Bool.not_eq_true',
          Bool.not_eq_false] at valid
        rw [not_or, Nat.not_lt] at complete
        exact ⟨valid.1, valid.2, complete.1⟩

theorem Projection.wellFormed_of_judge {piece : Text} {p : Projection}
    (trimmed : Text.IsTrimmed piece ∧ piece ≠ []) (h : judge piece = .kept p) : p.WellFormed := by
  unfold judge at h
  split at h
  · cases h
    trivial
  · split at h
    · obtain ⟨text, kept, rfl⟩ := Verdict.map_eq_kept_iff.1 h
      rw [Verdict.ofExcept_eq_kept_iff, checkExpression] at kept
      split at kept
      · next accepted =>
        cases kept
        exact ⟨accepted, trimmed⟩
      · cases kept
    · obtain ⟨name, kept, rfl⟩ := Verdict.map_eq_kept_iff.1 h
      rw [Verdict.ofExcept_eq_kept_iff, checkIdentifier_eq_ok_iff] at kept
      rw [kept.2]
      exact kept.1

theorem SortKey.wellFormed_of_judge {column : Text} {direction : Direction} {key : SortKey}
    (h : judge column direction = .kept key) : isIdentifier key.column = true := by
  obtain ⟨name, kept, rfl⟩ := Verdict.map_eq_kept_iff.1 h
  rw [Verdict.ofExcept_eq_kept_iff, checkIdentifier_eq_ok_iff] at kept
  rw [kept.2]
  exact kept.1

/-! ## Filters on a column

Filters on rows and filters on groups of rows differ in the keys that they stand under and in
nothing else: both are the values of keys of which a column can be picked.
-/

/-- The column of a filter on rows. -/
def Directive.rowColumn? : Directive → Option Text
  | filter column => some column
  | _ => none

/-- The column of a filter on groups of rows. -/
def Directive.groupColumn? : Directive → Option Text
  | having column => some column
  | _ => none

theorem Directive.rowColumn?_eq_some_iff {directive : Directive} {column : Text} :
    directive.rowColumn? = some column ↔ directive = filter column := by
  cases directive <;> simp [rowColumn?]

theorem Directive.groupColumn?_eq_some_iff {directive : Directive} {column : Text} :
    directive.groupColumn? = some column ↔ directive = having column := by
  cases directive <;> simp [groupColumn?]

namespace Params

/-- The verdicts on the values of all keys of which a column is picked, key by key. -/
def columnVerdicts (p : Params) (pick : Directive → Option Text) : List (Verdict Predicate) :=
  p.entries.flatMap fun entry =>
    (pick (Directive.ofKey entry.1)).toList.flatMap fun column =>
      entry.2.map (Predicate.judgeFilter column)

theorem filterVerdicts_eq (p : Params) :
    p.filterVerdicts = p.columnVerdicts Directive.rowColumn? := by
  refine List.flatMap_congr fun entry _ => ?_
  cases Directive.ofKey entry.1 with
  | filter column => simp [Directive.rowColumn?]
  | _ => rfl

theorem havingVerdicts_eq (p : Params) :
    p.havingVerdicts = p.columnVerdicts Directive.groupColumn? := by
  refine List.flatMap_congr fun entry _ => ?_
  cases Directive.ofKey entry.1 with
  | having column => simp [Directive.groupColumn?]
  | _ => rfl

theorem mem_columnVerdicts {p : Params} {pick : Directive → Option Text} {v : Verdict Predicate} :
    v ∈ p.columnVerdicts pick ↔
      ∃ entry ∈ p.entries, ∃ column, pick (Directive.ofKey entry.1) = some column ∧
        ∃ value ∈ entry.2, Predicate.judgeFilter column value = v := by
  simp [columnVerdicts]

end Params

/-! ## Kept queries -/

namespace Query

theorem wellFormed_of_mem_columnVerdicts {p : Params} {pick : Directive → Option Text}
    {predicate : Predicate} (h : .kept predicate ∈ p.columnVerdicts pick) :
    predicate.WellFormed := by
  obtain ⟨entry, -, column, -, value, -, h⟩ := Params.mem_columnVerdicts.1 h
  exact Predicate.wellFormed_of_judgeFilter h

/-- The condition that a group of judged terms makes, if one of them is kept. -/
def groupCondition? (group : Combinator × List (Verdict Predicate)) : Option Condition :=
  if Verdict.keptOf group.2 = [] then none else some (.group ⟨group.1, Verdict.keptOf group.2⟩)

theorem keptGroups_eq (p : Params) : keptGroups p = p.groupVerdicts.filterMap groupCondition? := by
  rw [keptGroups, List.filterMap_map]
  rfl

/-- A group that is kept has members, and each of them was a kept term. -/
theorem wellFormed_of_mem_keptGroups {p : Params} {c : Condition} (h : c ∈ keptGroups p) :
    c.WellFormed := by
  obtain ⟨g, hg, h⟩ := List.mem_filterMap.1 h
  obtain ⟨group, hgroup, rfl⟩ := List.mem_map.1 hg
  obtain ⟨terms, -, rfl⟩ := List.mem_map.1 hgroup
  split at h
  · cases h
  · next members =>
    cases h
    refine .group members fun q hq => ?_
    obtain ⟨term, -, kept⟩ := List.mem_map.1 (Verdict.mem_keptOf.1 hq)
    exact Predicate.wellFormed_of_judgeTerm kept

/-- Whatever the parameters, what was kept of them is well formed. -/
theorem wellFormed_kept (p : Params) : (kept p).WellFormed where
  conditions := by
    intro c hc
    rcases List.mem_append.1 hc with group | single
    · exact wellFormed_of_mem_keptGroups group
    · obtain ⟨predicate, hp, rfl⟩ := List.mem_map.1 single
      rw [Params.filterVerdicts_eq] at hp
      exact .predicate (wellFormed_of_mem_columnVerdicts (Verdict.mem_keptOf.1 hp))
  joins := by
    intro j hj
    obtain ⟨value, -, h⟩ := List.mem_map.1 (Verdict.mem_keptOf.1 hj)
    exact Join.wellFormed_of_judge h
  projection := by
    intro projection hp
    obtain ⟨piece, hpiece, h⟩ := List.mem_map.1 (Verdict.mem_keptOf.1 hp)
    obtain ⟨value, -, term⟩ := List.mem_flatMap.1 hpiece
    exact Projection.wellFormed_of_judge (Text.isTrimmed_of_mem_nonblank term) h
  order := by
    intro key hkey
    have mem := List.mem_of_mem_head? hkey
    obtain ⟨column, -, h⟩ := List.mem_map.1 (Verdict.mem_keptOf.1 mem)
    exact SortKey.wellFormed_of_judge h
  grouping := by
    intro column hc
    obtain ⟨item, -, h⟩ := List.mem_map.1 (Verdict.mem_keptOf.1 hc)
    rw [Verdict.ofExcept_eq_kept_iff, checkIdentifier_eq_ok_iff] at h
    rw [h.2]
    exact h.1
  having := by
    intro c hc
    obtain ⟨predicate, hp, rfl⟩ := List.mem_map.1 hc
    rw [Params.havingVerdicts_eq] at hp
    exact .predicate (wellFormed_of_mem_columnVerdicts (Verdict.mem_keptOf.1 hp))

/-- Every query that parameters ask for is well formed. -/
theorem wellFormed_of_ofParams {p : Params} {q : Query} (h : ofParams p = .ok q) :
    q.WellFormed := by
  obtain ⟨-, rfl⟩ := ofParams_eq_ok_iff.1 h
  exact wellFormed_kept p

end Query

end FilterSql
