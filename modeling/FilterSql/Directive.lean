/-
# FilterSql.Directive -- what a parameter key stands for

Ten keys are directives. A key that begins with `having.` filters groups by the column behind the
dot, and every other key filters rows by the column it names. Letter case counts.
-/

import FilterSql.Text.Split

namespace FilterSql

/-- The meaning of a parameter key. -/
inductive Directive where
  /-- A group of which some member holds. -/
  | or
  /-- A group of which all members hold. -/
  | and
  /-- A joined table. -/
  | join
  /-- Entries of the select list. -/
  | select
  /-- How many rows at most. -/
  | limit
  /-- How many rows to pass over. -/
  | offset
  /-- The column to order by. -/
  | orderBy
  /-- The sense of the ordering. -/
  | order
  /-- Columns to group by. -/
  | groupBy
  /-- A wildcard stands for the whole select list. -/
  | exclude
  /-- A filter on groups by a column. -/
  | having (column : Text)
  /-- A filter on rows by a column. -/
  | filter (column : Text)
  deriving DecidableEq

namespace Directive

/-- The directives proper, which have one key each. -/
def proper : List Directive :=
  [or, and, join, select, limit, offset, orderBy, order, groupBy, exclude]

/-- What the key of a filter on groups begins with. -/
def havingMark : Text := "having."

/-- The key. -/
def key : Directive → Text
  | or => "or"
  | and => "and"
  | join => "join"
  | select => "select"
  | limit => "limit"
  | offset => "offset"
  | orderBy => "orderBy"
  | order => "order"
  | groupBy => "group_by"
  | exclude => "exclude"
  | having column => havingMark ++ column
  | filter column => column

/-- The directive that a key stands for. Every text is the key of one. -/
def ofKey (k : Text) : Directive :=
  match proper.find? fun directive => directive.key = k with
  | some directive => directive
  | none => if havingMark.isPrefixOf k then having (k.drop havingMark.length) else filter k

/-- Classification loses nothing: the key of a key's directive is that key. -/
theorem key_ofKey (k : Text) : (ofKey k).key = k := by
  unfold ofKey
  split
  · next directive h =>
    have found := List.find?_some h
    exact of_decide_eq_true found
  · split
    · next h => exact List.prefix_iff_eq_append.1 (List.isPrefixOf_iff_prefix.1 h)
    · rfl

/-- A directive proper is what its own key stands for. -/
theorem ofKey_key {directive : Directive} (h : directive ∈ proper) :
    ofKey directive.key = directive := by
  have all : ∀ d ∈ proper, ofKey d.key = d := by decide
  exact all directive h

/-- No other key stands for a directive proper. -/
theorem eq_key_iff {directive : Directive} (h : directive ∈ proper) {k : Text} :
    k = directive.key ↔ ofKey k = directive := by
  constructor
  · rintro rfl
    exact ofKey_key h
  · rintro rfl
    exact (key_ofKey k).symm

/-- A key that is not that of a directive proper is classified by what it begins with. -/
theorem ofKey_of_not_mem {k : Text} (h : k ∉ proper.map key) :
    ofKey k = if havingMark.isPrefixOf k then having (k.drop havingMark.length) else filter k := by
  have absent : proper.find? (fun directive => directive.key = k) = none := by
    rw [List.find?_eq_none]
    intro directive hd same
    apply h
    exact List.mem_map.2 ⟨directive, hd, of_decide_eq_true same⟩
  rw [ofKey, absent]

/-- Whatever stands behind the mark is the column of a filter on groups. -/
theorem ofKey_having (column : Text) : ofKey (having column).key = having column := by
  have unmarked : ∀ d ∈ proper, havingMark.isPrefixOf d.key = false := by decide
  have marked : havingMark.isPrefixOf (havingMark ++ column) = true :=
    List.isPrefixOf_iff_prefix.2 (List.prefix_append havingMark column)
  have absent : havingMark ++ column ∉ proper.map key := by
    intro mem
    obtain ⟨d, hd, same⟩ := List.mem_map.1 mem
    rw [← same, unmarked d hd] at marked
    cases marked
  have cut : (havingMark ++ column).drop havingMark.length = column := List.drop_left
  show ofKey (havingMark ++ column) = having column
  rw [ofKey_of_not_mem absent, if_pos marked, cut]

/-- Every other key is the column of a filter on rows. -/
theorem ofKey_filter {column : Text} (h : column ∉ proper.map key)
    (unmarked : ¬ havingMark <+: column) : ofKey column = filter column := by
  rw [ofKey_of_not_mem h, if_neg fun marked => unmarked (List.isPrefixOf_iff_prefix.1 marked)]

end Directive

end FilterSql
