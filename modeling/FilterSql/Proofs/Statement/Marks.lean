/-
# FilterSql.Proofs.Statement.Marks -- one query in several dialects

A dialect decides how a query is written and nothing else. Whether parameters are refused, and why,
does not depend on it, and neither do the values of a statement. Even the text is the same up to the
quotation marks where two dialects agree on tables, windows and orderings: `Transcribes` says that a
function on characters turns the marks of one capability table into those of another and leaves the
rest of a statement alone. It leaves two things open, matching with letter case ignored and the
limit for all rows, so the text is compared for queries that make no use of either.

A name has no mark in it, and neither has an expression or an operand of a join, all of which stand
in a statement as they were given. So replacing the marks of a finished statement replaces those
that the writer put there.
-/

import FilterSql.Proofs.Statement.Bindings
import FilterSql.Proofs.Statement.Sections
import FilterSql.Proofs.Text.Cuts

namespace FilterSql

/-! ## Transcribed texts -/

/-- The piece with the characters of its text replaced. -/
def Piece.transcribe (f : Char → Char) : Piece → Piece
  | text sql => text (sql.map f)
  | hole value => hole value

namespace Fragment

variable (f : Char → Char)

/-- The fragment with the characters of its texts replaced. -/
def transcribe (fragment : Fragment) : Fragment := fragment.map (Piece.transcribe f)

@[simp]
theorem transcribe_raw (s : Text) : transcribe f (raw s) = raw (s.map f) := rfl

@[simp]
theorem transcribe_hole (value : Text) : transcribe f (hole value) = hole value := rfl

@[simp]
theorem transcribe_append (first second : Fragment) :
    transcribe f (first ++ second) = transcribe f first ++ transcribe f second := List.map_append

theorem transcribe_join (separator : Text) (fragments : List Fragment) :
    transcribe f (join separator fragments) =
      join (separator.map f) (fragments.map (transcribe f)) :=
  map_intercalate (Piece.transcribe f) (raw separator) fragments

theorem bindings_transcribe (fragment : Fragment) :
    bindings (transcribe f fragment) = bindings fragment := by
  rw [bindings, transcribe, List.flatMap_map]
  refine List.flatMap_congr fun piece _ => ?_
  cases piece <;> rfl

/-- Holes stay holes when the question mark is not replaced. -/
theorem sql_transcribe {f : Char → Char} (placeholder : f '?' = '?') (fragment : Fragment) :
    sql (transcribe f fragment) = (sql fragment).map f := by
  rw [sql, sql, transcribe, List.flatMap_map, List.map_flatMap]
  refine List.flatMap_congr fun piece _ => ?_
  cases piece with
  | text s => rfl
  | hole value => simp [Piece.transcribe, Piece.sql, Piece.placeholder, placeholder]

end Fragment

/-- The statement with the characters of its texts replaced. -/
def Statement.transcribe (f : Char → Char) (s : Statement) : Statement where
  selection := s.selection.map f
  joins := s.joins.map (List.map f)
  rows := s.rows.map (Fragment.transcribe f)
  grouping := s.grouping.map (List.map f)
  groups := s.groups.map (Fragment.transcribe f)
  ordering := s.ordering.map (List.map f)
  window := s.window.map (List.map f)

theorem Statement.sections_transcribe (f : Char → Char) (s : Statement) :
    (s.transcribe f).sections = s.sections.map (Fragment.transcribe f) := by
  have option : ∀ line : Option Text,
      ((line.map (List.map f)).map Fragment.raw).toList =
        (line.map Fragment.raw).toList.map (Fragment.transcribe f) := by
    intro line
    cases line <;> rfl
  have clause : ∀ line : Option Fragment,
      (line.map (Fragment.transcribe f)).toList = line.toList.map (Fragment.transcribe f) := by
    intro line
    cases line <;> rfl
  have joins : (s.joins.map (List.map f)).map Fragment.raw =
      (s.joins.map Fragment.raw).map (Fragment.transcribe f) := by
    simp [Function.comp_def]
  simp only [sections, transcribe, List.map_append, option, clause, joins, List.map_singleton,
    Fragment.transcribe_raw]

/-! ## Tables that differ in their marks -/

/-- The function turns the marks of the first table into those of the second and keeps all other
characters of a statement; and the tables agree on what stands behind a table and on how a window is
written. -/
structure Capabilities.Transcribes (f : Char → Char) (caps caps' : Capabilities) : Prop where
  /-- The characters of SQL stay. -/
  fixed : ∀ c, isSqlChar c = true → f c = c
  /-- So does the placeholder. -/
  placeholder : f '?' = '?'
  /-- The opening mark is replaced. -/
  openQuote : f caps.openQuote = caps'.openQuote
  /-- The closing mark is replaced. -/
  closeQuote : f caps.closeQuote = caps'.closeQuote
  /-- Windows stand in the same place. -/
  window : caps'.window = caps.window
  /-- An offset has the same need of an ordering. -/
  offsetNeedsOrder : caps'.offsetNeedsOrder = caps.offsetNeedsOrder
  /-- The same stands behind every table. -/
  lockHint : caps'.lockHint = caps.lockHint

/-- The predicates of the condition. -/
def Condition.predicates : Condition → List Predicate
  | predicate p => [p]
  | group g => g.members

/-- The predicates of the query, on rows and on groups of rows. -/
def Query.predicates (q : Query) : List Predicate :=
  (q.conditions ++ q.having).flatMap Condition.predicates

section Transcribes

variable {f : Char → Char} {caps caps' : Capabilities} (h : caps.Transcribes f caps')
  (regular : caps.Regular) (regular' : caps'.Regular)

include h

namespace Capabilities.Transcribes

/-! ### Texts without marks -/

theorem map_eq_self {s : Text} (plain : ∀ c ∈ s, isSqlChar c = true) : s.map f = s :=
  (List.map_congr_left fun c hc => h.fixed c (plain c hc)).trans (List.map_id' s)

/-- For a fixed text the hypothesis is a computation. -/
theorem map_fixed {s : Text} (plain : s.all isSqlChar = true) : s.map f = s :=
  h.map_eq_self (List.all_eq_true.1 plain)

theorem map_isIdentifier {s : Text} (hs : isIdentifier s = true) : s.map f = s :=
  h.map_eq_self fun c hc => isSqlChar_of_isExpressionChar (isExpressionChar_of_isIdentifier hs c hc)

theorem map_isExpression {s : Text} (hs : isExpression s = true) : s.map f = s :=
  h.map_eq_self fun c hc => isSqlChar_of_isExpressionChar (isExpressionChar_of_isExpression hs c hc)

theorem map_toText (n : Count) : n.toText.map f = n.toText := by
  refine h.map_eq_self fun c hc => ?_
  have name : isNameChar c = true := by
    simp [isNameChar, Char.isAlphanum, Count.isDigit_of_mem_toText hc]
  exact isSqlChar_of_isExpressionChar (isExpressionChar_of_isNameChar name)

/-! ### Names, tables and windows -/

/-- A window is placed alike unless the limit for all rows has to be written. -/
theorem placement {w : Window} (bounded : w.limit = none → w.offset = none) :
    w.placement caps' = w.placement caps := by
  have line : w.limitOffset? caps' = w.limitOffset? caps := by
    unfold Window.limitOffset? Window.limitPart?
    cases limit : w.limit with
    | none => simp [bounded limit]
    | some n => rfl
  rw [Window.placement, Window.placement, h.window, h.offsetNeedsOrder, line]

include regular regular'

/-- A quoted identifier has its marks replaced. -/
theorem quote {s : Text} (hs : isIdentifier s = true) :
    caps'.quote s = (caps.quote s).map f := by
  have segment : ∀ name ∈ s.splitOn '.',
      caps'.quoteSegment name = (caps.quoteSegment name).map f := by
    intro name mem
    have valid : isName name = true := List.all_eq_true.1 hs name mem
    have kept : name.map f = name := h.map_eq_self fun c hc =>
      isSqlChar_of_isExpressionChar
        (isExpressionChar_of_isNameChar (isNameChar_of_isName valid c hc))
    rw [regular'.quoteSegment_of_isName valid, regular.quoteSegment_of_isName valid, List.map_cons,
      List.map_append, kept, h.openQuote, List.map_singleton, h.closeQuote]
  have dot : ['.'].map f = ['.'] := h.map_fixed rfl
  rw [Capabilities.quote, Capabilities.quote, map_intercalate, dot, List.map_map]
  exact congrArg _ (List.map_congr_left segment)

theorem tableReference {table : Text} (valid : isIdentifier table = true) :
    caps'.tableReference table = (caps.tableReference table).map f := by
  rw [Capabilities.tableReference, Capabilities.tableReference, h.lockHint]
  cases given : caps.lockHint with
  | none => exact h.quote regular regular' valid
  | some hint =>
    have kept : hint.map f = hint := h.map_fixed (regular.lockHint hint given).2
    have space : f ' ' = ' ' := h.fixed ' ' rfl
    rw [h.quote regular regular' valid, List.map_append, List.map_cons, kept, space]

end Capabilities.Transcribes

include regular regular'

/-! ### The parts of a statement -/

/-- A predicate is written alike but for the marks, unless letter case is ignored. -/
theorem Predicate.fragment_transcribe {p : Predicate} (valid : isIdentifier p.column = true)
    (cased : p.operator ≠ .ilike) : p.fragment caps' = (p.fragment caps).transcribe f := by
  have column := h.quote regular regular' valid
  unfold fragment
  by_cases isIn : p.operator = .isIn
  · have holes : (p.operand.items.map Fragment.hole).map (Fragment.transcribe f) =
        p.operand.items.map Fragment.hole := by
      rw [List.map_map]
      rfl
    simp (disch := decide) only [if_pos isIn, column, Fragment.transcribe_append,
      Fragment.transcribe_raw, Fragment.transcribe_join, holes, List.map_append, h.map_fixed]
  · have symbol : p.operator.symbol.map f = p.operator.symbol := by
      apply h.map_fixed
      cases p.operator <;> decide
    have ignored : ∀ supported, ¬ (p.operator = .ilike ∧ supported = false) := fun _ both =>
      cased both.1
    simp (disch := decide) only [if_neg isIn, if_neg (ignored _), column,
      Fragment.transcribe_append, Fragment.transcribe_raw, Fragment.transcribe_hole,
      List.map_append, h.map_fixed, symbol]

theorem Condition.fragment_transcribe {c : Condition} (wellFormed : c.WellFormed)
    (cased : ∀ p ∈ c.predicates, p.operator ≠ .ilike) :
    c.fragment caps' = (c.fragment caps).transcribe f := by
  cases wellFormed with
  | @predicate p hp =>
    exact p.fragment_transcribe h regular regular' hp.column (cased p (by simp [predicates]))
  | @group g _ members =>
    have each : ∀ p ∈ g.members, p.fragment caps' = (p.fragment caps).transcribe f := fun p hp =>
      p.fragment_transcribe h regular regular' (members p hp).column (cased p hp)
    have keyword : g.combinator.keyword.map f = g.combinator.keyword := by
      apply h.map_fixed
      cases g.combinator <;> decide
    unfold fragment Group.fragment
    simp (disch := decide) only [List.map_congr_left each, Fragment.transcribe_append,
      Fragment.transcribe_raw, Fragment.transcribe_join, List.map_append, h.map_fixed, keyword,
      List.map_map, Function.comp_def]

theorem conditionClause?_transcribe {keyword : Text} (plain : keyword.all isSqlChar = true)
    {conditions : List Condition} (wellFormed : ∀ c ∈ conditions, c.WellFormed)
    (cased : ∀ c ∈ conditions, ∀ p ∈ c.predicates, p.operator ≠ .ilike) :
    conditionClause? caps' keyword conditions =
      (conditionClause? caps keyword conditions).map (Fragment.transcribe f) := by
  have each : ∀ c ∈ conditions, c.fragment caps' = (c.fragment caps).transcribe f := fun c hc =>
    c.fragment_transcribe h regular regular' (wellFormed c hc) (cased c hc)
  unfold conditionClause?
  split
  · rfl
  · simp (disch := decide) only [List.map_congr_left each, Option.map_some,
      Fragment.transcribe_append, Fragment.transcribe_raw, Fragment.transcribe_join,
      List.map_append, h.map_fixed plain, h.map_fixed, List.map_map, Function.comp_def]

theorem selectPart_transcribe {projection : List Projection}
    (wellFormed : ∀ p ∈ projection, p.WellFormed) (exclude : Bool) (top : Option Count) :
    selectPart caps' projection exclude top = (selectPart caps projection exclude top).map f := by
  have each : ∀ p ∈ projection, p.toSql caps' = (p.toSql caps).map f := by
    intro p hp
    have known := wellFormed p hp
    cases p with
    | wildcard => exact (h.map_fixed rfl).symm
    | column name => exact h.quote regular regular' known
    | expression text => exact (h.map_isExpression known.1).symm
  have list : selectList caps' projection exclude = (selectList caps projection exclude).map f := by
    unfold selectList
    split
    · exact (h.map_fixed rfl).symm
    · simp (disch := decide) only [List.map_congr_left each, map_intercalate, h.map_fixed,
        List.map_map, Function.comp_def]
  unfold selectPart
  cases top with
  | none => simp (disch := decide) only [list, List.map_append, h.map_fixed]
  | some n => simp (disch := decide) only [list, List.map_append, h.map_fixed, h.map_toText]

theorem Join.toSql_transcribe {j : Join} (wellFormed : j.WellFormed) :
    j.toSql caps' = (j.toSql caps).map f := by
  have operands : j.operands.map (List.map f) = j.operands := by
    have each : ∀ operand ∈ j.operands, operand.map f = operand := fun operand mem =>
      h.map_isIdentifier (wellFormed.operands operand mem)
    rw [List.map_congr_left each, List.map_id']
  unfold toSql
  simp (disch := decide) only [h.tableReference regular regular' wellFormed.table,
    List.map_append, map_intercalate, h.map_fixed, operands]

theorem groupingLine?_transcribe {columns : List Text}
    (valid : ∀ column ∈ columns, isIdentifier column = true) :
    groupingLine? caps' columns = (groupingLine? caps columns).map (List.map f) := by
  have each : ∀ column ∈ columns, caps'.quote column = (caps.quote column).map f :=
    fun column mem => h.quote regular regular' (valid column mem)
  unfold groupingLine?
  split
  · rfl
  · simp (disch := decide) only [List.map_congr_left each, Option.map_some, List.map_append,
      map_intercalate, h.map_fixed, List.map_map, Function.comp_def]

theorem orderingLine?_transcribe {order : Option SortKey}
    (valid : ∀ key ∈ order, isIdentifier key.column = true) (needed : Bool) :
    orderingLine? caps' order needed = (orderingLine? caps order needed).map (List.map f) := by
  unfold orderingLine?
  cases order with
  | none =>
    cases needed with
    | false => rfl
    | true => simp (disch := decide) only [if_true, Option.map_some, h.map_fixed]
  | some key =>
    have column := h.quote regular regular' (valid key rfl)
    have sense : key.direction.keyword.map f = key.direction.keyword := by
      apply h.map_fixed
      cases key.direction <;> decide
    simp (disch := decide) only [column, Option.map_some, List.map_append, h.map_fixed, sense]

omit regular' in
theorem suffix_transcribe (w : Window) :
    (w.placement caps).suffix.map (List.map f) = (w.placement caps).suffix := by
  cases placed : (w.placement caps).suffix with
  | none => rfl
  | some line =>
    rw [Option.map_some]
    apply congrArg some
    rcases Window.suffix_cases placed with ⟨-, written⟩ | ⟨-, m, rfl⟩
    · rcases Window.limitOffset?_cases written with
        ⟨n, rfl⟩ | ⟨n, m, rfl⟩ | ⟨m, -, rfl⟩ | ⟨all, m, unbounded, rfl⟩
      · simp (disch := decide) only [List.map_append, h.map_fixed, h.map_toText]
      · simp (disch := decide) only [List.map_append, h.map_fixed, h.map_toText]
      · simp (disch := decide) only [List.map_append, h.map_fixed, h.map_toText]
      · have number : all.map f = all := h.map_fixed (regular.unboundedLimit all unbounded)
        simp (disch := decide) only [List.map_append, h.map_fixed, number, h.map_toText]
    · cases w.limit with
      | none =>
        simp (disch := decide) only [Window.fetch_none, List.map_append, h.map_fixed, h.map_toText]
      | some n =>
        simp (disch := decide) only [Window.fetch_some, List.map_append, h.map_fixed, h.map_toText]

/-! ### Statements -/

/-- A query is written alike but for the marks, unless it ignores letter case or asks for all rows
behind an offset. -/
theorem Statement.ofQuery_transcribe {table : Text} (valid : isIdentifier table = true) {q : Query}
    (wellFormed : q.WellFormed) (cased : ∀ p ∈ q.predicates, p.operator ≠ .ilike)
    (bounded : q.window.limit = none → q.window.offset = none) :
    ofQuery caps' table q = (ofQuery caps table q).transcribe f := by
  have casedIn : ∀ c ∈ q.conditions ++ q.having, ∀ p ∈ c.predicates, p.operator ≠ .ilike :=
    fun c hc p hp => cased p (List.mem_flatMap.2 ⟨c, hc, hp⟩)
  have joins : ∀ j ∈ q.joins, j.toSql caps' = (j.toSql caps).map f := fun j hj =>
    j.toSql_transcribe h regular regular' (wellFormed.joins j hj)
  have rows : whereClause? caps' q.conditions =
      (whereClause? caps q.conditions).map (Fragment.transcribe f) :=
    conditionClause?_transcribe h regular regular' rfl wellFormed.conditions
      fun c hc => casedIn c (List.mem_append_left _ hc)
  have groups : havingClause? caps' q.having =
      (havingClause? caps q.having).map (Fragment.transcribe f) :=
    conditionClause?_transcribe h regular regular' rfl wellFormed.having
      fun c hc => casedIn c (List.mem_append_right _ hc)
  unfold ofQuery transcribe fromPart
  simp (disch := decide) only [h.placement bounded,
    selectPart_transcribe h regular regular' wellFormed.projection,
    h.tableReference regular regular' valid, List.map_append, h.map_fixed,
    List.map_congr_left joins, rows,
    groupingLine?_transcribe h regular regular' wellFormed.grouping, groups,
    orderingLine?_transcribe h regular regular' wellFormed.order,
    suffix_transcribe h regular, List.map_map, Function.comp_def]

/-- The compiled statement has its marks replaced and its values kept. -/
theorem Statement.compiled_ofQuery_transcribe {table : Text} (valid : isIdentifier table = true)
    {q : Query} (wellFormed : q.WellFormed) (cased : ∀ p ∈ q.predicates, p.operator ≠ .ilike)
    (bounded : q.window.limit = none → q.window.offset = none) :
    (ofQuery caps' table q).compiled =
      { sql := (ofQuery caps table q).compiled.sql.map f
        bindings := (ofQuery caps table q).compiled.bindings } := by
  have newline : ['\n'].map f = ['\n'] := h.map_fixed rfl
  have lines : Fragment.join ['\n'] (ofQuery caps' table q).sections =
      (Fragment.join ['\n'] (ofQuery caps table q).sections).transcribe f := by
    rw [ofQuery_transcribe h regular regular' valid wellFormed cased bounded, sections_transcribe,
      Fragment.transcribe_join, newline]
  rw [compiled_ofQuery regular' wellFormed, compiled_ofQuery regular wellFormed, lines,
    Fragment.sql_transcribe h.placeholder, Fragment.bindings_transcribe]

end Transcribes

/-! ## Dialects -/

namespace Dialect

/-- PostgreSQL and SQLite use the same marks. -/
theorem transcribes_sqlite : postgres.capabilities.Transcribes id sqlite.capabilities :=
  ⟨fun _ _ => rfl, rfl, rfl, rfl, rfl, rfl, rfl⟩

/-- The marks of MySQL for those of PostgreSQL. -/
def backquoted (c : Char) : Char := if c = '"' then '\x60' else c

theorem transcribes_mysql : postgres.capabilities.Transcribes backquoted mysql.capabilities := by
  refine ⟨fun c char => if_neg ?_, rfl, rfl, rfl, rfl, rfl, rfl⟩
  exact postgres.regular.ne_openQuote char

/-- Whether parameters are refused, and for what, does not depend on the dialect, nor do the values
of the statement. -/
theorem error_or_bindings (table : Text) (p : Params) :
    (∃ e, ∀ dialect : Dialect, dialect.compile table p = .error e) ∨
      ∃ bindings, ∀ dialect : Dialect, ∃ sql, dialect.compile table p = .ok ⟨sql, bindings⟩ := by
  by_cases valid : isIdentifier table = true
  · cases read : Query.ofParams p with
    | error e =>
      left
      exact ⟨e, fun dialect => compile_eq_error_iff.2 (.inr ⟨valid, read⟩)⟩
    | ok q =>
      right
      have wellFormed := Query.wellFormed_of_ofParams read
      refine ⟨q.conditions.flatMap Condition.literals ++ q.having.flatMap Condition.literals,
        fun dialect => ⟨(Statement.ofQuery dialect.capabilities table q).compiled.sql, ?_⟩⟩
      refine compile_eq_ok_iff.2 ⟨valid, q, read, ?_⟩
      rw [Statement.compiled_ofQuery dialect.regular wellFormed, Fragment.bindings_join,
        Statement.bindings_sections dialect.capabilities table wellFormed]
  · left
    rw [Bool.not_eq_true] at valid
    exact ⟨.invalidIdentifier table, fun dialect => compile_eq_error_iff.2 (.inl ⟨valid, rfl⟩)⟩

theorem compile_transcribe {f : Char → Char} {dialect dialect' : Dialect}
    (h : dialect.capabilities.Transcribes f dialect'.capabilities) {table : Text} {p : Params}
    {q : Query} {c : Compiled} (read : Query.ofParams p = .ok q)
    (compiled : dialect.compile table p = .ok c) (cased : ∀ p ∈ q.predicates, p.operator ≠ .ilike)
    (bounded : q.window.limit = none → q.window.offset = none) :
    dialect'.compile table p = .ok { c with sql := c.sql.map f } := by
  obtain ⟨valid, same, readSame, rfl⟩ := compile_eq_ok_iff.1 compiled
  rw [read] at readSame
  cases readSame
  refine compile_eq_ok_iff.2 ⟨valid, q, read, ?_⟩
  have wellFormed := Query.wellFormed_of_ofParams read
  exact (Statement.compiled_ofQuery_transcribe h dialect.regular dialect'.regular valid wellFormed
    cased bounded).symm

/-- The dialect changes the syntax only. All dialects refuse the same parameters for the same
reason, or all of them write a statement with the same values. And where a query neither ignores
letter case nor asks for all rows behind an offset, SQLite writes what PostgreSQL writes, and MySQL
the same with its own quotation marks. -/
theorem compile_uniform (table : Text) (p : Params) :
    ((∃ e, ∀ dialect : Dialect, dialect.compile table p = .error e) ∨
      ∃ bindings, ∀ dialect : Dialect, ∃ sql, dialect.compile table p = .ok ⟨sql, bindings⟩) ∧
    ∀ (q : Query) (c : Compiled), Query.ofParams p = .ok q → postgres.compile table p = .ok c →
      (∀ s ∈ q.predicates, s.operator ≠ .ilike) →
      ¬ (q.window.limit = none ∧ q.window.offset ≠ none) →
      sqlite.compile table p = .ok c ∧
        mysql.compile table p =
          .ok { c with sql := c.sql.map fun ch => if ch = '"' then '\x60' else ch } := by
  refine ⟨error_or_bindings table p, fun q c read compiled cased bounded => ?_⟩
  have bounded' : q.window.limit = none → q.window.offset = none := fun unlimited =>
    not_not.1 fun offset => bounded ⟨unlimited, offset⟩
  have lite := compile_transcribe transcribes_sqlite read compiled cased bounded'
  rw [List.map_id] at lite
  exact ⟨lite, compile_transcribe transcribes_mysql read compiled cased bounded'⟩

/-- Two marks around each name, and none in the operands of the join, the expression and the
values. -/
theorem compile_uniform_join :
    let p := Params.ofPairs [("join", "u:on=t.id=u.t_id"), ("select", "a,MAX(u.id)"),
      ("b.c", "eq.\"x\""), ("limit", "5"), ("offset", "2")]
    let c : Compiled :=
      ⟨"SELECT \"a\", MAX(u.id) FROM \"t\"\nJOIN \"u\" ON t.id = u.t_id\n" ++
        "WHERE \"b\".\"c\" = ?\nLIMIT 5 OFFSET 2", ["\"x\""]⟩
    postgres.compile "t" p = .ok c ∧ sqlite.compile "t" p = .ok c ∧
      mysql.compile "t" p =
        .ok { c with sql := c.sql.map fun ch => if ch = '"' then '\x60' else ch } := by
  intro p c
  have accepted : Query.refusal? p = none := by decide +kernel
  have compiled : postgres.compile "t" p = .ok c := by decide +kernel
  have uniform := (compile_uniform "t" p).2 (Query.kept p) c
    (Query.ofParams_eq_ok_iff.2 ⟨accepted, rfl⟩) compiled (by decide +kernel) (by decide +kernel)
  exact ⟨compiled, uniform⟩

end Dialect

end FilterSql
