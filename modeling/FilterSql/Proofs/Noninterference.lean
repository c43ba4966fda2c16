/-
# FilterSql.Proofs.Noninterference -- literals have no influence on SQL text

Two parameter sets that differ in the literals of their operands only are refused with the same
error, or have the same SQL text and as many bindings. `Params.Varied` says what may differ: under a
filter any operand may stand for any other, and inside a group any closed one for any other closed
one, for a group is cut at its commas before anyone looks at operators. A list may be replaced by a
list with as many items. Literals may hold quotation marks, dots, question marks, even statements.

The proof compares the two runs through outlines: every varied value has the same outline, and
outlines determine the refusal and the erased query.
-/

import Mathlib.Data.List.Forall2
import FilterSql.Compile
import FilterSql.Proofs.Query.Erasure
import FilterSql.Proofs.Text.Cuts

namespace FilterSql

/-! ## Terms of groups -/

/-- A term of a group, taken apart. -/
structure Term where
  /-- The column. -/
  column : Text
  /-- The name of the operator. -/
  operator : Text
  /-- The text of the operand. -/
  operand : Text

namespace Term

/-- The term as it is written. -/
def text (t : Term) : Text := t.column ++ '.' :: (t.operator ++ '.' :: t.operand)

/-- A group of terms as it is written. -/
def group (terms : List Term) : Text := '(' :: ([','].intercalate (terms.map text) ++ [')'])

/-- The text is free of dots, commas and parentheses. -/
def IsPlain (s : Text) : Prop := ∀ c ∈ s, c ≠ '.' ∧ c ≠ ',' ∧ c ≠ '(' ∧ c ≠ ')'

instance : DecidablePred IsPlain := fun s => List.decidableBAll _ s

/-- Column and operator are plain, and the operand is trimmed and closed. -/
structure Regular (t : Term) : Prop where
  /-- The column is plain. -/
  column : IsPlain t.column
  /-- The operator is plain. -/
  operator : IsPlain t.operator
  /-- The operand is trimmed. -/
  trimmed : Text.IsTrimmed t.operand
  /-- The parentheses of the operand are its own, and its commas are between them. -/
  closed : Text.closedFrom 0 t.operand = true

instance (t : Term) : Decidable t.Regular :=
  decidable_of_iff (IsPlain t.column ∧ IsPlain t.operator ∧ Text.IsTrimmed t.operand ∧
      Text.closedFrom 0 t.operand = true)
    ⟨fun ⟨column, operator, trimmed, closed⟩ => ⟨column, operator, trimmed, closed⟩,
      fun h => ⟨h.column, h.operator, h.trimmed, h.closed⟩⟩

/-- Two regular terms that differ in their operands at most. -/
structure Varied (t t' : Term) : Prop where
  /-- The first is regular. -/
  first : t.Regular
  /-- So is the second. -/
  second : t'.Regular
  /-- They have the same column. -/
  column : t.column = t'.column
  /-- They have the same operator. -/
  operator : t.operator = t'.operator
  /-- One operand replaces the other. -/
  operand : Replaces t.operator t.operand t'.operand

instance (t t' : Term) : Decidable (t.Varied t') :=
  decidable_of_iff (t.Regular ∧ t'.Regular ∧ t.column = t'.column ∧ t.operator = t'.operator ∧
      Replaces t.operator t.operand t'.operand)
    ⟨fun ⟨first, second, column, operator, operand⟩ => ⟨first, second, column, operator, operand⟩,
      fun h => ⟨h.first, h.second, h.column, h.operator, h.operand⟩⟩

theorem closedFrom_of_isPlain {s : Text} (h : IsPlain s) : Text.closedFrom 0 s = true :=
  Text.closedFrom_of_forall fun c hc => (h c hc).2

theorem Regular.closedFrom_text {t : Term} (h : t.Regular) : Text.closedFrom 0 t.text = true := by
  have dot : ∀ s, Text.closedFrom 0 s = true → Text.closedFrom 0 ('.' :: s) = true := fun s hs =>
    Text.closedFrom_append (s := ['.']) rfl hs
  apply Text.closedFrom_append (closedFrom_of_isPlain h.column)
  apply dot
  apply Text.closedFrom_append (closedFrom_of_isPlain h.operator)
  exact dot _ h.closed

/-- Trimming a regular term trims the front of its column. -/
theorem Regular.trim_text {t : Term} (h : t.Regular) :
    Text.trim t.text = Text.trimStart t.column ++ '.' :: (t.operator ++ '.' :: t.operand) := by
  have start : Text.trimStart t.text =
      Text.trimStart t.column ++ '.' :: (t.operator ++ '.' :: t.operand) := by
    unfold text Text.trimStart
    rw [List.dropWhile_append]
    split
    · next blank =>
      rw [List.isEmpty_iff.1 blank]
      rfl
    · rfl
  have solid : Text.EndsSolid ('.' :: t.operand) := by
    cases operand : t.operand with
    | nil => exact ⟨'.', rfl, rfl⟩
    | cons c rest =>
      have ends := h.trimmed.endsSolid (by simp [operand])
      rw [operand] at ends
      exact ends.cons '.'
  rw [Text.trim, start]
  apply Text.trimEnd_eq_self_of_endsSolid
  exact ((solid.append t.operator).cons '.').append _

/-- A regular term is cut at the two dots that it was written with. -/
theorem Regular.judgeTerm_trim_text {t : Term} (h : t.Regular) :
    Predicate.judgeTerm (Text.trim t.text) =
      Predicate.judge (Text.trimStart t.column) t.operator t.operand := by
  have column : '.' ∉ Text.trimStart t.column := fun dot =>
    (h.column '.' ((List.dropWhile_suffix _).subset dot)).1 rfl
  have operator : '.' ∉ t.operator := fun dot => (h.operator '.' dot).1 rfl
  rw [h.trim_text, Predicate.judgeTerm, cut?_append _ column]
  dsimp only
  rw [cut?_append _ operator]

/-- A group is cut into the terms that it was written with. -/
theorem terms_group {terms : List Term} (h : ∀ t ∈ terms, t.Regular) :
    Text.terms (Text.unwrap (Text.trim (group terms))) = terms.map fun t => Text.trim t.text := by
  have closed : ∀ piece ∈ terms.map text, Text.closedFrom 0 piece = true := by
    intro piece hp
    obtain ⟨t, ht, rfl⟩ := List.mem_map.1 hp
    exact (h t ht).closedFrom_text
  rw [group, Text.unwrap_trim_parenthesized, Text.terms_intercalate closed, Text.nonblank,
    List.map_map]
  -- No term is blank: there is a dot in it.
  refine List.filter_eq_self.2 fun piece hp => ?_
  obtain ⟨t, ht, rfl⟩ := List.mem_map.1 hp
  have dotted := (h t ht).trim_text
  simp [dotted]

/-- Varied terms have the same outline. -/
theorem Varied.outline_eq {t t' : Term} (h : t.Varied t') :
    (Predicate.judgeTerm (Text.trim t.text)).outline Predicate.erase =
      (Predicate.judgeTerm (Text.trim t'.text)).outline Predicate.erase := by
  rw [h.first.judgeTerm_trim_text, h.second.judgeTerm_trim_text, ← h.column, ← h.operator]
  exact Predicate.outline_judge_eq h.operand _

end Term

/-! ## Varied values -/

/-- One value in place of another under a directive. -/
inductive Directive.Varied : Directive → Text → Text → Prop where
  /-- Nothing is varied. -/
  | same (directive : Directive) (value : Text) : Varied directive value value
  /-- The operand of a filter on rows. -/
  | filter {column operator operand operand' : Text} : '.' ∉ operator →
      Replaces operator operand operand' →
      Varied (.filter column) (operator ++ '.' :: operand) (operator ++ '.' :: operand')
  /-- The operand of a filter on groups of rows. -/
  | having {column operator operand operand' : Text} : '.' ∉ operator →
      Replaces operator operand operand' →
      Varied (.having column) (operator ++ '.' :: operand) (operator ++ '.' :: operand')
  /-- The operands of a group of which some member holds. -/
  | or {terms terms' : List Term} : List.Forall₂ Term.Varied terms terms' →
      Varied .or (Term.group terms) (Term.group terms')
  /-- The operands of a group of which all members hold. -/
  | and {terms terms' : List Term} : List.Forall₂ Term.Varied terms terms' →
      Varied .and (Term.group terms) (Term.group terms')

/-- The same keys in the same order, each with as many values, which are varied under the directive
that the key stands for. -/
def Params.Varied (p p' : Params) : Prop :=
  List.Forall₂ (fun entry entry' => entry.1 = entry'.1 ∧
    List.Forall₂ (Directive.ofKey entry.1).Varied entry.2 entry'.2) p.entries p'.entries

/-! ## Outlines of varied values -/

/-- Functions that agree on related elements agree on related lists. -/
theorem map_eq_map_of_forall₂ {α β : Type} {R : α → α → Prop} {f : α → β} {l l' : List α}
    (h : List.Forall₂ R l l') (same : ∀ a b, R a b → f a = f b) : l.map f = l'.map f := by
  induction h with
  | nil => rfl
  | cons first _ ih => rw [List.map_cons, List.map_cons, same _ _ first, ih]

/-- The outlines of the terms of a group. -/
def groupOutlines (value : Text) : List (Option QueryError × Option Predicate) :=
  ((Text.terms (Text.unwrap (Text.trim value))).map Predicate.judgeTerm).map
    (Verdict.outline Predicate.erase)

theorem Term.groupOutlines_group_eq {terms terms' : List Term}
    (h : List.Forall₂ Term.Varied terms terms') :
    groupOutlines (group terms) = groupOutlines (group terms') := by
  have first : ∀ t ∈ terms, t.Regular := by
    induction h with
    | nil => simp
    | cons varied _ ih => exact List.forall_mem_cons.2 ⟨varied.first, ih⟩
  have second : ∀ t ∈ terms', t.Regular := by
    induction h with
    | nil => simp
    | cons varied _ ih =>
      exact List.forall_mem_cons.2
        ⟨varied.second, ih fun t ht => first t (List.mem_cons_of_mem _ ht)⟩
  unfold groupOutlines
  rw [terms_group first, terms_group second]
  simp only [List.map_map]
  exact map_eq_map_of_forall₂ h fun _ _ varied => varied.outline_eq

/-- The directives that take no operands. -/
def Directive.plain : List Directive :=
  [.join, .select, .limit, .offset, .orderBy, .order, .groupBy, .exclude]

namespace Directive.Varied

variable {directive : Directive} {value value' : Text}

/-- Of directives that take no operands, no value is varied. -/
theorem eq (h : directive.Varied value value')
    (plain : directive ∈ Directive.plain) : value = value' := by
  cases h with
  | same => rfl
  | filter => simp [Directive.plain] at plain
  | having => simp [Directive.plain] at plain
  | or => simp [Directive.plain] at plain
  | and => simp [Directive.plain] at plain

/-- Of groups, varied values have terms with the same outlines. -/
theorem groupOutlines_eq (h : directive.Varied value value')
    (isGroup : directive ∈ [Directive.or, .and]) : groupOutlines value = groupOutlines value' := by
  cases h with
  | same => rfl
  | filter => simp at isGroup
  | having => simp at isGroup
  | or terms => exact Term.groupOutlines_group_eq terms
  | and terms => exact Term.groupOutlines_group_eq terms

/-- Of filters, varied values have the same outline on every column. -/
theorem outline_judgeFilter_eq (h : directive.Varied value value')
    (isFilter : directive ∉ [Directive.or, .and]) (column : Text) :
    (Predicate.judgeFilter column value).outline Predicate.erase =
      (Predicate.judgeFilter column value').outline Predicate.erase := by
  cases h with
  | same => rfl
  | filter dot operand =>
    rw [Predicate.judgeFilter, Predicate.judgeFilter, cut?_append _ dot, cut?_append _ dot]
    exact Predicate.outline_judge_eq operand column
  | having dot operand =>
    rw [Predicate.judgeFilter, Predicate.judgeFilter, cut?_append _ dot, cut?_append _ dot]
    exact Predicate.outline_judge_eq operand column
  | or => simp at isFilter
  | and => simp at isFilter

end Directive.Varied

/-! ## Varied parameters -/

namespace Params.Varied

variable {p p' : Params}

/-- The values of every key are varied under its directive. -/
theorem values (h : p.Varied p') (key : Text) :
    List.Forall₂ (Directive.ofKey key).Varied (p.values key) (p'.values key) := by
  unfold Params.Varied at h
  unfold Params.values
  generalize p.entries = entries at h ⊢
  generalize p'.entries = entries' at h ⊢
  -- Both look-ups go through the entries side by side and stop at the same one.
  induction h with
  | nil => exact .nil
  | @cons entry entry' _ _ first _ ih =>
    obtain ⟨same, varied⟩ := first
    by_cases here : entry.1 = key
    · have here' : entry'.1 = key := same ▸ here
      rw [List.find?_cons_of_pos (by simpa using here),
        List.find?_cons_of_pos (by simpa using here')]
      exact here ▸ varied
    · have there : ¬ entry'.1 = key := same ▸ here
      rw [List.find?_cons_of_neg (by simpa using here),
        List.find?_cons_of_neg (by simpa using there)]
      exact ih

theorem values_eq (h : p.Varied p') {directive : Directive} (plain : directive ∈ Directive.plain) :
    p.values directive.key = p'.values directive.key := by
  -- The relation on the values is that of the directive, which allows no variation.
  have varied := h.values directive.key
  have proper : ∀ d ∈ Directive.plain, d ∈ Directive.proper := by decide
  rw [Directive.ofKey_key (proper directive plain)] at varied
  have same := varied.imp fun _ _ v => v.eq plain
  rwa [List.forall₂_eq_eq_eq] at same

theorem contains_eq (h : p.Varied p') (key : Text) : p.contains key = p'.contains key := by
  have keys : p.entries.map Prod.fst = p'.entries.map Prod.fst := by
    unfold Params.Varied at h
    generalize p.entries = entries at h ⊢
    generalize p'.entries = entries' at h ⊢
    induction h with
    | nil => rfl
    | cons first _ ih => rw [List.map_cons, List.map_cons, first.1, ih]
  have read : ∀ p : Params, p.contains key = (p.entries.map Prod.fst).any (· = key) := by
    intro p
    rw [List.any_map]
    rfl
  rw [read, read, keys]

/-- The outlines of all groups are the same. -/
theorem groups_eq (h : p.Varied p') :
    p.groupVerdicts.map (fun g => (g.1, g.2.map (Verdict.outline Predicate.erase))) =
      p'.groupVerdicts.map fun g => (g.1, g.2.map (Verdict.outline Predicate.erase)) := by
  have read : ∀ p : Params,
      p.groupVerdicts.map (fun g => (g.1, g.2.map (Verdict.outline Predicate.erase))) =
        (p.values Directive.or.key).map (fun value => (Combinator.or, groupOutlines value)) ++
          (p.values Directive.and.key).map fun value => (Combinator.and, groupOutlines value) := by
    intro p
    simp only [Params.groupVerdicts, Params.groups, List.map_append, List.map_map]
    rfl
  have same : ∀ directive : Directive, directive ∈ [.or, .and] → ∀ combinator : Combinator,
      (p.values directive.key).map (fun value => (combinator, groupOutlines value)) =
        (p'.values directive.key).map fun value => (combinator, groupOutlines value) := by
    intro directive isGroup combinator
    have proper : ∀ d ∈ [Directive.or, .and], d ∈ Directive.proper := by decide
    have varied := h.values directive.key
    rw [Directive.ofKey_key (proper directive isGroup)] at varied
    refine map_eq_map_of_forall₂ varied fun _ _ v => ?_
    rw [v.groupOutlines_eq isGroup]
  rw [read, read, same .or (by decide), same .and (by decide)]

/-- So are those of the filters of one kind, whichever of the two. -/
theorem columns_eq (h : p.Varied p') {pick : Directive → Option Text}
    (ungrouped : pick .or = none ∧ pick .and = none) :
    (p.columnVerdicts pick).map (Verdict.outline Predicate.erase) =
      (p'.columnVerdicts pick).map (Verdict.outline Predicate.erase) := by
  unfold Params.Varied at h
  unfold Params.columnVerdicts
  generalize p.entries = entries at h ⊢
  generalize p'.entries = entries' at h ⊢
  induction h with
  | nil => rfl
  | @cons entry entry' _ _ first _ ih =>
    rw [List.flatMap_cons, List.flatMap_cons, List.map_append, List.map_append, ih]
    congr 1
    obtain ⟨same, varied⟩ := first
    rw [← same]
    cases picked : pick (Directive.ofKey entry.1) with
    | none => rfl
    | some column =>
      -- A column was picked, so the key is not that of a group.
      have isFilter : Directive.ofKey entry.1 ∉ [.or, .and] := by
        intro isGroup
        rcases List.mem_pair.1 isGroup with is | is
        · rw [is, ungrouped.1] at picked
          cases picked
        · rw [is, ungrouped.2] at picked
          cases picked
      simp only [Option.toList_some, List.flatMap_singleton, List.map_map]
      exact map_eq_map_of_forall₂ varied fun _ _ v => v.outline_judgeFilter_eq isFilter column

theorem similar (h : p.Varied p') : p.Similar p' where
  groups := h.groups_eq
  filters := by
    rw [filterVerdicts_eq, filterVerdicts_eq]
    exact h.columns_eq ⟨rfl, rfl⟩
  having := by
    rw [havingVerdicts_eq, havingVerdicts_eq]
    exact h.columns_eq ⟨rfl, rfl⟩
  joins := by rw [joinVerdicts, joinVerdicts, h.values_eq (by decide)]
  projection := by rw [projectionVerdicts, projectionVerdicts, h.values_eq (by decide)]
  exclude := h.contains_eq _
  limit := by rw [countVerdicts, countVerdicts, last?, last?, h.values_eq (by decide)]
  offset := by rw [countVerdicts, countVerdicts, last?, last?, h.values_eq (by decide)]
  order := by
    have column : p.last? Directive.orderBy.key = p'.last? Directive.orderBy.key := by
      rw [last?, last?, h.values_eq (by decide)]
    have sense : p.direction = p'.direction := by
      rw [direction, direction, last?, last?, h.values_eq (by decide)]
    rw [orderVerdicts, orderVerdicts, column, sense]
  grouping := by rw [groupingVerdicts, groupingVerdicts, h.values_eq (by decide)]

end Params.Varied

/-- Literals have no influence on SQL text: varied parameters are refused with the same error, or
their statements have the same text and as many bindings. -/
theorem Dialect.compile_noninterference {p p' : Params} (h : p.Varied p') (dialect : Dialect)
    (table : Text) :
    (∃ e, dialect.compile table p = .error e ∧ dialect.compile table p' = .error e) ∨
      ∃ c c', dialect.compile table p = .ok c ∧ dialect.compile table p' = .ok c' ∧
        c.sql = c'.sql ∧ c.bindings.length = c'.bindings.length := by
  -- The table decides first; then outlines decide the refusal, and else the erased query.
  have similar := h.similar
  have refusal := similar.refusal?_eq
  have erased := similar.erase_kept_eq
  by_cases valid : isIdentifier table = true
  · cases refused : Query.refusal? p with
    | some e =>
      have error := Query.ofParams_eq_error_iff.2 refused
      have error' := Query.ofParams_eq_error_iff.2 (refusal ▸ refused)
      exact .inl ⟨e, compile_eq_error_iff.2 (.inr ⟨valid, error⟩),
        compile_eq_error_iff.2 (.inr ⟨valid, error'⟩)⟩
    | none =>
      have ok := Query.ofParams_eq_ok_iff.2 ⟨refused, rfl⟩
      have ok' := Query.ofParams_eq_ok_iff.2 ⟨refusal ▸ refused, rfl⟩
      have alike := Statement.compiled_ofQuery_of_erase_eq erased dialect.capabilities table
      exact .inr ⟨_, _, compile_eq_ok_iff.2 ⟨valid, _, ok, rfl⟩,
        compile_eq_ok_iff.2 ⟨valid, _, ok', rfl⟩, alike⟩
  · have bad : isIdentifier table = false := by simpa using valid
    have error : ∀ p : Params, dialect.compile table p = .error _ := fun _ =>
      compile_eq_error_iff.2 (.inl ⟨bad, rfl⟩)
    exact .inl ⟨_, error p, error p'⟩

/-- A quotation mark, a comment and an unbalanced parenthesis change nothing but bindings. -/
theorem Dialect.compile_noninterference_hostile :
    let p := Params.ofPairs [("or", "(a.eq.1,b.in.(x,y))"), ("n", "gt.5"), ("limit", "3")]
    let p' := Params.ofPairs
      [("or", "(a.eq.' OR (1=1, ?) --,b.in.(?, ,z))"), ("n", "gt.5) OR 1=1.,("), ("limit", "3")]
    let sql : Text :=
      "SELECT * FROM \"t\"\nWHERE (\"a\" = ? OR \"b\" IN (?, ?)) AND \"n\" > ?\nLIMIT 3"
    p.Varied p' ∧ sqlite.compile "t" p = .ok ⟨sql, ["1", "x", "y", "5"]⟩ ∧
      ∃ bindings, sqlite.compile "t" p' = .ok ⟨sql, bindings⟩ ∧ bindings.length = 4 := by
  intro p p' sql
  have entries : p.entries =
      [("or".toList, ["(a.eq.1,b.in.(x,y))".toList]), ("n".toList, ["gt.5".toList]),
        ("limit".toList, ["3".toList])] := by decide +kernel
  have entries' : p'.entries =
      [("or".toList, ["(a.eq.' OR (1=1, ?) --,b.in.(?, ,z))".toList]),
        ("n".toList, ["gt.5) OR 1=1.,(".toList]), ("limit".toList, ["3".toList])] := by
    decide +kernel
  have varied : p.Varied p' := by
    have group : Directive.or.Varied "(a.eq.1,b.in.(x,y))"
        "(a.eq.' OR (1=1, ?) --,b.in.(?, ,z))" := by
      have terms : List.Forall₂ Term.Varied [⟨"a", "eq", "1"⟩, ⟨"b", "in", "(x,y)"⟩]
          [⟨"a", "eq", "' OR (1=1, ?) --"⟩, ⟨"b", "in", "(?, ,z)"⟩] :=
        .cons (by decide +kernel) (.cons (by decide +kernel) .nil)
      exact .or terms
    have filter : (Directive.filter "n").Varied "gt.5" "gt.5) OR 1=1.,(" :=
      have dot : '.' ∉ "gt".toList := by decide
      have other : Replaces "gt" "5" "5) OR 1=1.,(" := by decide
      .filter dot other
    unfold Params.Varied
    rw [entries, entries']
    exact .cons ⟨rfl, .cons group .nil⟩
      (.cons ⟨rfl, .cons filter .nil⟩ (.cons ⟨rfl, .cons (.same _ _) .nil⟩ .nil))
  have compiled : sqlite.compile "t" p = .ok ⟨sql, ["1", "x", "y", "5"]⟩ := by decide +kernel
  refine ⟨varied, compiled, ?_⟩
  have outcome := compile_noninterference varied sqlite "t"
  rcases outcome with ⟨e, error, -⟩ | ⟨c, c', ok, ok', same, count⟩
  · rw [compiled] at error
    cases error
  · rw [compiled] at ok
    cases ok
    have whole : c' = ⟨sql, c'.bindings⟩ := by rw [show sql = c'.sql from same]
    exact ⟨c'.bindings, whole ▸ ok', count.symm⟩

end FilterSql
