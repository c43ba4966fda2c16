/-
# FilterSql.Proofs.Statement.Erasure -- statements without their values

Erasing a fragment empties its holes, and erasing a query empties its operands, all but the number
of items of a list. Writing commutes with erasure, part by part up to the whole statement, so the
text of a statement is the text of the erased query: it is determined by what erasure leaves.
-/

import Mathlib.Data.List.Basic
import FilterSql.Proofs.Text.Cuts
import FilterSql.Statement

namespace FilterSql

/-! ## Fragments -/

/-- The piece with nothing in its hole. -/
def Piece.erase : Piece → Piece
  | text sql => text sql
  | hole _ => hole []

namespace Fragment

/-- The fragment with nothing in its holes. -/
def erase (f : Fragment) : Fragment := f.map Piece.erase

@[simp]
theorem erase_raw (s : Text) : erase (raw s) = raw s := rfl

@[simp]
theorem erase_hole (value : Text) : erase (hole value) = hole [] := rfl

@[simp]
theorem erase_append (f g : Fragment) : erase (f ++ g) = erase f ++ erase g := List.map_append

theorem erase_join (separator : Text) (fragments : List Fragment) :
    erase (join separator fragments) = join separator (fragments.map erase) :=
  map_intercalate Piece.erase (raw separator) fragments

/-- Values leave no trace in the text. -/
@[simp]
theorem sql_erase (f : Fragment) : sql (erase f) = sql f := by
  rw [sql, erase, List.flatMap_map]
  refine List.flatMap_congr fun piece _ => ?_
  cases piece <;> rfl

/-- There are as many values as before. -/
theorem bindings_erase (f : Fragment) : bindings (erase f) = (bindings f).map fun _ => [] := by
  rw [bindings, bindings, erase, List.flatMap_map, List.map_flatMap]
  refine List.flatMap_congr fun piece _ => ?_
  cases piece <;> rfl

@[simp]
theorem isBlank_erase (f : Fragment) : isBlank (erase f) = isBlank f := by
  rw [isBlank, sql_erase, isBlank]

end Fragment

/-! ## Queries -/

/-- The operand of an operator with nothing in it but as many items as before. -/
def Operand.erase (operator : Operator) (operand : Operand) : Operand :=
  if operator = .isIn then list (operand.items.map fun _ => []) else single []

/-- The predicate with nothing in its operand. -/
def Predicate.erase (p : Predicate) : Predicate :=
  { p with operand := p.operand.erase p.operator }

/-- The condition with nothing in its operands. -/
def Condition.erase : Condition → Condition
  | predicate p => predicate p.erase
  | group g => group { g with members := g.members.map Predicate.erase }

/-- The query with nothing in its operands. -/
def Query.erase (q : Query) : Query :=
  { q with
    conditions := q.conditions.map Condition.erase
    having := q.having.map Condition.erase }

/-! ## Statements -/

/-- The statement with nothing in its holes. -/
def Statement.erase (s : Statement) : Statement :=
  { s with rows := s.rows.map Fragment.erase, groups := s.groups.map Fragment.erase }

/-- The text with nothing in the values. -/
def Compiled.erase (c : Compiled) : Compiled :=
  { c with bindings := c.bindings.map fun _ => [] }

/-- Erased, statements are equal when they have the same text and as many values. -/
theorem Compiled.erase_eq_iff {c d : Compiled} :
    c.erase = d.erase ↔ c.sql = d.sql ∧ c.bindings.length = d.bindings.length := by
  simp only [erase, Compiled.mk.injEq, List.map_const']
  apply and_congr_right
  intro _
  constructor
  · intro h
    simpa using congrArg List.length h
  · intro h
    rw [h]

section Writing

variable (caps : Capabilities)

theorem Predicate.fragment_erase (p : Predicate) :
    p.erase.fragment caps = (p.fragment caps).erase := by
  obtain ⟨column, operator, operand⟩ := p
  simp only [fragment, erase, Operand.erase]
  by_cases isIn : operator = .isIn
  · simp [isIn, Operand.items, Fragment.erase_join, Function.comp_def]
  · rw [if_neg isIn, if_neg isIn, if_neg isIn]
    split <;> simp [Operand.literal]

theorem Condition.fragment_erase (c : Condition) :
    c.erase.fragment caps = (c.fragment caps).erase := by
  cases c with
  | predicate p => exact p.fragment_erase caps
  | group g =>
    simp [erase, fragment, Group.fragment, Fragment.erase_join, Function.comp_def,
      Predicate.fragment_erase]

theorem conditionClause?_erase (keyword : Text) (conditions : List Condition) :
    conditionClause? caps keyword (conditions.map Condition.erase) =
      (conditionClause? caps keyword conditions).map Fragment.erase := by
  unfold conditionClause?
  by_cases empty : conditions = []
  · simp [empty]
  · rw [if_neg (by simpa using empty), if_neg empty]
    simp [Fragment.erase_join, Function.comp_def, Condition.fragment_erase]

/-- Of a statement only the two clauses depend on operands. -/
theorem Statement.ofQuery_erase (table : Text) (q : Query) :
    ofQuery caps table q.erase = (ofQuery caps table q).erase := by
  have rows := conditionClause?_erase caps "WHERE" q.conditions
  have groups := conditionClause?_erase caps "HAVING" q.having
  simp only [ofQuery, erase, Query.erase, whereClause?, havingClause?, rows, groups]

end Writing

theorem Statement.sections_erase (s : Statement) :
    s.erase.sections = s.sections.map Fragment.erase := by
  have option : ∀ line : Option Text,
      (line.map Fragment.raw).toList.map Fragment.erase = (line.map Fragment.raw).toList := by
    intro line
    cases line <;> rfl
  have clause : ∀ line : Option Fragment,
      (line.map Fragment.erase).toList = line.toList.map Fragment.erase := by
    intro line
    cases line <;> rfl
  have joins : (s.joins.map Fragment.raw).map Fragment.erase = s.joins.map Fragment.raw := by
    simp [Function.comp_def]
  simp only [sections, erase, List.map_append, option, clause, joins, List.map_singleton,
    Fragment.erase_raw]

/-- The erased statement has the text of the whole one. -/
theorem Statement.compiled_erase (s : Statement) : s.erase.compiled = s.compiled.erase := by
  have lines : s.erase.fragment = s.fragment.erase := by
    rw [fragment, fragment, sections_erase, Fragment.erase_join, List.filter_map]
    simp [Function.comp_def]
  rw [compiled, lines, Fragment.sql_erase, Fragment.bindings_erase, Compiled.erase, compiled]

/-- Queries that are equal once erased have statements with the same text and as many values. -/
theorem Statement.compiled_ofQuery_of_erase_eq {q q' : Query} (h : q.erase = q'.erase)
    (caps : Capabilities) (table : Text) :
    (ofQuery caps table q).compiled.sql = (ofQuery caps table q').compiled.sql ∧
      (ofQuery caps table q).compiled.bindings.length =
        (ofQuery caps table q').compiled.bindings.length := by
  apply Compiled.erase_eq_iff.1
  calc (ofQuery caps table q).compiled.erase
      = (ofQuery caps table q.erase).compiled := by rw [ofQuery_erase, compiled_erase]
    _ = (ofQuery caps table q'.erase).compiled := by rw [h]
    _ = (ofQuery caps table q').compiled.erase := by rw [ofQuery_erase, compiled_erase]

end FilterSql
