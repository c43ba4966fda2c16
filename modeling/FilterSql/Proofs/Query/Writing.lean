/-
# FilterSql.Proofs.Query.Writing -- queries written as parameters

A query can be written the way it is read. Every item of it has a text: a predicate with its
column and its operator, a group in parentheses, a join, an entry of the select list, a count. For
each kind of item one lemma says that its text is judged to be that item. What stands in the way is
stated as a condition on the item: a group is cut at its commas before anyone looks at literals, so
the literals in a group have to be closed, and the terms of a group are trimmed, so none of them may
end with a blank. Alone under its column a literal may be any text.
-/

import FilterSql.Proofs.Query.WellFormed
import FilterSql.Proofs.Text.Cuts

namespace FilterSql

/-! ## Closed texts -/

/-- A text made of the characters between commas and parentheses is closed. -/
theorem closedFrom_of_isPartChar {s : Text} (h : ∀ c ∈ s, isPartChar c = true) :
    Text.closedFrom 0 s = true := by
  apply Text.closedFrom_of_forall
  intro c hc
  have part := h c hc
  refine ⟨?_, ?_, ?_⟩ <;> rintro rfl <;> cases part

/-- The parentheses of an expression are its own, and its commas are between them. -/
theorem closedFrom_of_isExpression {s : Text} (trimmed : Text.IsTrimmed s)
    (h : isExpression s = true) : Text.closedFrom 0 s = true := by
  rw [isExpression, Text.trim_eq_self_iff.2 trimmed, Bool.or_eq_true] at h
  rcases h with column | call
  · exact closedFrom_of_isPartChar (Expression.isPartChar_of_isColumn column)
  · obtain ⟨name, arguments, tail, rfl, parts⟩ := Expression.exists_of_isCall call
    have closed : ∀ part ∈ name :: tail :: arguments, Text.closedFrom 0 part = true :=
      fun part mem => closedFrom_of_isPartChar (parts part mem)
    apply Text.closedFrom_append _ (closed tail (by simp))
    apply Text.closedFrom_append (closed name (by simp))
    apply Text.closedFrom_parenthesized
    exact fun argument mem => closed argument (by simp [mem])

/-! ## Predicates -/

/-- The text of an operand: a literal as it stands, or items between parentheses. -/
def Operand.text : Operand → Text
  | single literal => literal
  | list items => '(' :: ([','].intercalate items ++ [')'])

/-- The operand can be written for the operator: items that are left alone by trimming and cutting
for `in`, and any literal for every other. -/
def Operand.Writable (operator : Operator) : Operand → Prop
  | single _ => operator ≠ .isIn
  | list items => operator = .isIn ∧ items ≠ [] ∧
      ∀ item ∈ items, Text.IsTrimmed item ∧ item ≠ [] ∧ ',' ∉ item

instance (operator : Operator) (operand : Operand) : Decidable (operand.Writable operator) :=
  match operand with
  | .single _ => inferInstanceAs (Decidable (_ ≠ _))
  | .list _ => inferInstanceAs (Decidable (_ ∧ _ ∧ _))

/-- A written operand is read back. -/
theorem Operand.ofText?_text {operator : Operator} {operand : Operand}
    (h : operand.Writable operator) : ofText? operator operand.text = some operand := by
  cases operand with
  | single literal => exact if_neg h
  | list items =>
    obtain ⟨isIn, ne, regular⟩ := h
    rw [text, ofText?, if_pos isIn, Text.unwrap_trim_parenthesized,
      Text.items_intercalate_eq_self regular]
    cases items with
    | nil => exact absurd rfl ne
    | cons item rest => rfl

namespace Predicate

/-- The text of a predicate as the value of a filter on its column. -/
def filterText (p : Predicate) : Text := p.operator.name ++ '.' :: p.operand.text

/-- The text of a predicate as a term of a group. -/
def termText (p : Predicate) : Text := p.column ++ '.' :: p.filterText

/-- The predicate can be written as a filter on its column. -/
structure Writable (p : Predicate) : Prop where
  /-- The column is an identifier. -/
  column : isIdentifier p.column = true
  /-- The operand can be written for the operator. -/
  operand : p.operand.Writable p.operator

instance (p : Predicate) : Decidable p.Writable :=
  decidable_of_iff (isIdentifier p.column = true ∧ p.operand.Writable p.operator)
    ⟨fun ⟨column, operand⟩ => ⟨column, operand⟩, fun h => ⟨h.column, h.operand⟩⟩

/-- The predicate can be written as a term of a group. -/
structure Groupable (p : Predicate) : Prop where
  /-- It can be written as a filter. -/
  writable : p.Writable
  /-- The column is not qualified. -/
  undotted : '.' ∉ p.column
  /-- No literal ends with a blank. -/
  solid : ∀ literal ∈ p.operand.items, ∀ c ∈ literal.getLast?, Text.isBlank c = false
  /-- The parentheses of a literal are its own, and its commas are between them. -/
  closed : ∀ literal ∈ p.operand.items, Text.closedFrom 0 literal = true

instance (p : Predicate) : Decidable p.Groupable :=
  have (literal : Text) : Decidable (∀ c ∈ literal.getLast?, Text.isBlank c = false) :=
    Option.decidableForallMem _
  decidable_of_iff (p.Writable ∧ '.' ∉ p.column ∧
      (∀ literal ∈ p.operand.items, ∀ c ∈ literal.getLast?, Text.isBlank c = false) ∧
      ∀ literal ∈ p.operand.items, Text.closedFrom 0 literal = true)
    ⟨fun ⟨writable, undotted, solid, closed⟩ => ⟨writable, undotted, solid, closed⟩,
      fun h => ⟨h.writable, h.undotted, h.solid, h.closed⟩⟩

theorem judge_text {p : Predicate} (h : p.Writable) :
    judge p.column p.operator.name p.operand.text = .kept p :=
  judge_eq_kept_iff.2 ⟨p.operator.ofName?_name, Operand.ofText?_text h.operand, h.column, rfl⟩

theorem judgeFilter_filterText {p : Predicate} (h : p.Writable) :
    judgeFilter p.column p.filterText = .kept p := by
  rw [judgeFilter, filterText, cut?_append _ p.operator.dot_not_mem_name]
  exact judge_text h

theorem judgeTerm_termText {p : Predicate} (h : p.Groupable) : judgeTerm p.termText = .kept p := by
  rw [judgeTerm, termText, cut?_append _ h.undotted]
  dsimp only
  rw [filterText, cut?_append _ p.operator.dot_not_mem_name]
  exact judge_text h.writable

/-- Column and operator do not add to the parentheses of the operand. -/
theorem Groupable.closedFrom_termText {p : Predicate} (h : p.Groupable) :
    Text.closedFrom 0 p.termText = true := by
  have column : Text.closedFrom 0 p.column = true :=
    closedFrom_of_isPartChar (isPartChar_of_isIdentifier h.writable.column)
  have operator : Text.closedFrom 0 ('.' :: p.operator.name) = true := by
    cases p.operator <;> decide
  have operand : Text.closedFrom 0 p.operand.text = true := by
    cases written : p.operand with
    | single literal => exact h.closed literal (by simp [written, Operand.items])
    | list items =>
      apply Text.closedFrom_parenthesized
      intro item mem
      exact h.closed item (by simpa [written, Operand.items] using mem)
  apply Text.closedFrom_append column
  apply Text.closedFrom_append (s := '.' :: p.operator.name) operator
  exact Text.closedFrom_append (s := ['.']) rfl operand

/-- A term starts with its column and ends with its operand or with the dot before it. -/
theorem Groupable.isTrimmed_termText {p : Predicate} (h : p.Groupable) :
    Text.IsTrimmed p.termText ∧ p.termText ≠ [] := by
  obtain ⟨column, ne⟩ := isTrimmed_of_isIdentifier h.writable.column
  have ending : Text.EndsSolid ('.' :: p.operand.text) := by
    cases written : p.operand with
    | single literal =>
      cases last : literal.getLast? with
      | none => exact ⟨'.', by simp [Operand.text, List.getLast?_eq_none_iff.1 last], rfl⟩
      | some c =>
        have solid := h.solid literal (by simp [written, Operand.items]) c last
        exact (show Text.EndsSolid literal from ⟨c, last, solid⟩).cons '.'
    | list items => exact ((Text.EndsSolid.append _ ⟨')', rfl, rfl⟩).cons '(').cons '.'
  have whole : Text.EndsSolid p.termText := ((ending.append _).cons '.').append _
  have trimmed : Text.trim p.termText = p.termText := by
    apply Text.trim_eq_self_of_endsSolid _ whole
    rw [termText, List.head?_append_of_ne_nil _ ne]
    exact column.1
  exact ⟨Text.trim_eq_self_iff.1 trimmed, whole.ne_nil⟩

end Predicate

/-- The text of a group. -/
def Group.text (g : Group) : Text :=
  '(' :: ([','].intercalate (g.members.map Predicate.termText) ++ [')'])

/-- A written group is cut into the terms of its members, and these are judged to be the members. -/
theorem Group.judge_text {g : Group} (h : ∀ p ∈ g.members, p.Groupable) :
    (Text.terms (Text.unwrap (Text.trim g.text))).map Predicate.judgeTerm =
      g.members.map .kept := by
  have terms : Text.terms (Text.unwrap (Text.trim g.text)) = g.members.map Predicate.termText := by
    rw [text, Text.unwrap_trim_parenthesized, Text.terms_intercalate, Text.nonblank_eq_self]
    · exact List.forall_mem_map.2 fun p hp => (h p hp).isTrimmed_termText
    · exact List.forall_mem_map.2 fun p hp => (h p hp).closedFrom_termText
  rw [terms, List.map_map]
  exact List.map_congr_left fun p hp => Predicate.judgeTerm_termText (h p hp)

/-! ## Joins -/

/-- The text of a join. -/
def Join.text (j : Join) : Text := j.table ++ onMark ++ ['='].intercalate j.operands

/-- A join of identifiers is read back. -/
theorem Join.judge_text {j : Join} (h : j.WellFormed) : judge j.text = .kept j := by
  have cut : cut? onMark j.text = some (j.table, ['='].intercalate j.operands) :=
    cut?_append_mark "on=".toList _ (not_mem_of_isIdentifier (by decide) h.table)
  have operands : ((['='].intercalate j.operands).splitOn '=').map Text.trim = j.operands := by
    have ne : j.operands ≠ [] := by
      intro empty
      have two := h.two
      rw [empty] at two
      cases two
    have trimmed : ∀ operand ∈ j.operands, Text.trim operand = operand := fun operand mem =>
      Text.trim_eq_self_iff.2 (isTrimmed_of_isIdentifier (h.operands operand mem)).1
    rw [List.splitOn_intercalate '=' _ ne, List.map_congr_left trimmed, List.map_id']
    exact fun operand mem => not_mem_of_isIdentifier (by decide) (h.operands operand mem)
  have table : Text.trim j.table = j.table :=
    Text.trim_eq_self_iff.2 (isTrimmed_of_isIdentifier h.table).1
  have complete : ¬ (j.operands.length < 2 ∨ [] ∈ j.operands) := by
    rintro (short | blank)
    · exact absurd h.two (Nat.not_le_of_lt short)
    · exact (isTrimmed_of_isIdentifier (h.operands [] blank)).2 rfl
  have valid : (j.table :: j.operands).find? (fun name => !isIdentifier name) = none := by
    rw [List.find?_eq_none]
    intro name mem
    rcases List.mem_cons.1 mem with rfl | mem
    · simp [h.table]
    · simp [h.operands name mem]
  rw [judge, cut]
  dsimp only
  rw [operands, table, if_neg complete, valid]

/-! ## Entries of the select list -/

namespace Projection

/-- The text of an entry. -/
def text : Projection → Text
  | wildcard => ['*']
  | column name => name
  | expression text => text

/-- The entry is what its text stands for: a column has no dot, which would make it an expression,
and an expression has something that a column has not. -/
def Writable : Projection → Prop
  | wildcard => True
  | column name => isIdentifier name = true ∧ '.' ∉ name
  | expression text => Text.IsTrimmed text ∧ isPassthrough text = true ∧ isExpression text = true

instance (p : Projection) : Decidable p.Writable :=
  match p with
  | wildcard => isTrue trivial
  | column _ => inferInstanceAs (Decidable (_ ∧ _))
  | expression _ => inferInstanceAs (Decidable (_ ∧ _ ∧ _))

theorem toLower_ne_space {c : Char} (h : isNameChar c = true) : c.toLower ≠ ' ' := by
  unfold Char.toLower
  split
  · next capital =>
    intro same
    have low : 65 ≤ c.toNat := capital.1
    have high : c.toNat ≤ 90 := capital.2
    have code : (c.toNat + 32) % 4294967296 = 32 := by simpa using congrArg Char.toNat same
    omega
  · rintro rfl
    cases h

/-- A column without a dot is no expression. -/
theorem isPassthrough_eq_false {name : Text} (h : isIdentifier name = true)
    (undotted : '.' ∉ name) : isPassthrough name = false := by
  have named : ∀ c ∈ name, isNameChar c = true := by
    intro c hc
    rcases isNameChar_of_isIdentifier h c hc with char | rfl
    · exact char
    · exact absurd hc undotted
  have absent : ∀ c, isNameChar c = false → name.contains c = false := by
    intro c unnamed
    rw [List.contains_eq_mem, decide_eq_false_iff_not]
    intro mem
    rw [named c mem] at unnamed
    cases unnamed
  have unaliased : Text.mentions " as " (Text.lower name) = false := by
    rw [Text.mentions, Option.isSome_eq_false_iff, Option.isNone_iff_eq_none]
    cases cut : cut? " as ".toList (Text.lower name) with
    | none => rfl
    | some halves =>
      -- The alias keyword stands between spaces, and no character of a name becomes one.
      have space : ' ' ∈ Text.lower name := by
        rw [eq_append_of_cut? cut]
        simp
      obtain ⟨c, hc, lowered⟩ := List.mem_map.1 space
      exact absurd lowered (toLower_ne_space (named c hc))
  rw [isPassthrough, absent '.' (by decide), absent '(' (by decide), absent ')' (by decide),
    unaliased]
  rfl

theorem judge_text {p : Projection} (h : p.Writable) : judge p.text = .kept p := by
  cases p with
  | wildcard => rfl
  | column name =>
    obtain ⟨valid, undotted⟩ := h
    have star : name ≠ ['*'] := by
      rintro rfl
      cases valid
    rw [text, judge, if_neg star, isPassthrough_eq_false valid undotted,
      if_neg Bool.false_ne_true, checkIdentifier, if_pos valid]
    rfl
  | expression text =>
    obtain ⟨-, passthrough, accepted⟩ := h
    have star : text ≠ ['*'] := by
      rintro rfl
      cases passthrough
    rw [Projection.text, judge, if_neg star, if_pos passthrough, checkExpression, if_pos accepted]
    rfl

theorem closedFrom_text {p : Projection} (h : p.Writable) : Text.closedFrom 0 p.text = true := by
  cases p with
  | wildcard => rfl
  | column name =>
    exact closedFrom_of_isPartChar (isPartChar_of_isIdentifier h.1)
  | expression text => exact closedFrom_of_isExpression h.1 h.2.2

theorem isTrimmed_text {p : Projection} (h : p.Writable) :
    Text.IsTrimmed p.text ∧ p.text ≠ [] := by
  cases p with
  | wildcard => decide
  | column name => exact isTrimmed_of_isIdentifier h.1
  | expression text =>
    refine ⟨h.1, ?_⟩
    rintro rfl
    cases h.2.1

/-- A written select list is read back. -/
theorem map_judge_terms {projection : List Projection} (h : ∀ p ∈ projection, p.Writable) :
    (Text.terms ([','].intercalate (projection.map text))).map judge = projection.map .kept := by
  rw [Text.terms_intercalate, Text.nonblank_eq_self, List.map_map]
  · exact List.map_congr_left fun p hp => judge_text (h p hp)
  · exact List.forall_mem_map.2 fun p hp => isTrimmed_text (h p hp)
  · exact List.forall_mem_map.2 fun p hp => closedFrom_text (h p hp)

end Projection

/-! ## Counts, columns to group by and senses of ordering -/

/-- A written count is read back. -/
theorem Count.judge_toText (key : Text) (n : Count) : judge key n.toText = .kept n := by
  have digit : ∀ c ∈ n.toText, c.isDigit = true := fun c hc => isDigit_of_mem_toText hc
  have solid : ∀ c ∈ n.toText, Text.isBlank c = false := fun c hc =>
    isBlank_eq_false_of_isNameChar (by simp [isNameChar, Char.isAlphanum, digit c hc])
  have trimmed : Text.trim n.toText = n.toText :=
    Text.trim_eq_self (fun c hc => solid c (List.mem_of_mem_head? hc))
      fun c hc => solid c (List.mem_of_mem_getLast? hc)
  have unsigned : n.toText.head? ≠ some '+' := fun plus =>
    absurd (digit '+' (List.mem_of_mem_head? plus)) (by decide)
  have read : ofText? n.toText = some n := by
    rw [ofText?, if_neg unsigned, if_pos ⟨Nat.toDigits_ne_nil, List.all_eq_true.2 digit⟩,
      ofDigits?_toText]
  rw [judge, trimmed, read]

/-- Written columns to group by are read back. -/
theorem items_columns {columns : List Text} (h : ∀ column ∈ columns, isIdentifier column = true) :
    Text.items ([','].intercalate columns) = columns := by
  apply Text.items_intercalate_eq_self
  intro column mem
  obtain ⟨trimmed, ne⟩ := isTrimmed_of_isIdentifier (h column mem)
  exact ⟨trimmed, ne, not_mem_of_isIdentifier (by decide) (h column mem)⟩

/-- The text of a sense of ordering. -/
def Direction.text : Direction → Text
  | asc => "asc"
  | desc => "desc"

end FilterSql
