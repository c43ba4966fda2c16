/-
# FilterSql.Proofs.Statement.Grammar -- the grammar that every statement belongs to

What comes from outside can fill the places that the grammar leaves for it and nothing else: names,
counts, and select expressions that the checker accepts. The grammar is written down here from
scratch, one predicate for each kind of phrase, without a word of the code that writes statements;
`Dialect.sentence_of_compile` says that no parameters, table or dialect lead out of it.

Phrases are put together by concatenation only, so a derivation shows where every part of a
statement begins and ends.
-/

import FilterSql.Proofs.Statement.Sections

namespace FilterSql

namespace Grammar

/-! ## Names and numbers -/

/-- An ASCII letter or the underscore. -/
def NameStart (c : Char) : Prop := ('A' ≤ c ∧ c ≤ 'Z') ∨ ('a' ≤ c ∧ c ≤ 'z') ∨ c = '_'

/-- An ASCII digit. -/
def Digit (c : Char) : Prop := '0' ≤ c ∧ c ≤ '9'

/-- A name: `[A-Za-z_][A-Za-z0-9_]*`. -/
inductive Name : Text → Prop where
  /-- A first character and the others. -/
  | intro {c : Char} {rest : Text} : NameStart c → (∀ d ∈ rest, NameStart d ∨ Digit d) →
      Name (c :: rest)

/-- A number: `[0-9]+`. -/
def Decimal (s : Text) : Prop := s ≠ [] ∧ ∀ c ∈ s, Digit c

/-- One or more parts with a separator between neighbours. -/
inductive Chain (separator : Text) (Part : Text → Prop) : Text → Prop where
  /-- One part. -/
  | last {part : Text} : Part part → Chain separator Part part
  /-- A part in front of others. -/
  | more {part rest : Text} : Part part → Chain separator Part rest →
      Chain separator Part (part ++ separator ++ rest)

/-- A path of names with dots in between. -/
def Path : Text → Prop := Chain ['.'] Name

/-! ## Phrases of a dialect -/

section Phrases

variable (caps : Capabilities)

/-- A name between the quotation marks of the dialect. -/
inductive QuotedName : Text → Prop where
  /-- The marks stand directly around the name. -/
  | intro {name : Text} : Name name → QuotedName (caps.openQuote :: (name ++ [caps.closeQuote]))

/-- A path of which every name is quoted. -/
def Quoted : Text → Prop := Chain ['.'] (QuotedName caps)

/-- A table with the lock hint of the dialect. -/
inductive Table : Text → Prop where
  /-- The dialect has no lock hint. -/
  | bare {path : Text} : caps.lockHint = none → Quoted caps path → Table path
  /-- The dialect has one. -/
  | locked {path hint : Text} : caps.lockHint = some hint → Quoted caps path →
      Table (path ++ " " ++ hint)

/-- An entry of the select list. -/
inductive Entry : Text → Prop where
  /-- All columns. -/
  | star : Entry "*"
  /-- A column. -/
  | column {path : Text} : Quoted caps path → Entry path
  /-- An accepted expression. -/
  | expression {s : Text} : isExpression s = true → Entry s

/-- A comparison of a column with placeholders. -/
inductive Comparison : Text → Prop where
  /-- With one placeholder. -/
  | sign {path sign : Text} : Quoted caps path →
      sign ∈ (["=", "<>", ">", ">=", "<", "<=", "LIKE"] : List Text) →
      Comparison (path ++ " " ++ sign ++ " ?")
  /-- Letter case ignored, where the dialect can do that. -/
  | ilike {path : Text} : caps.supportsIlike = true → Quoted caps path →
      Comparison (path ++ " ILIKE ?")
  /-- Letter case ignored, where it cannot. -/
  | lowered {path : Text} : caps.supportsIlike = false → Quoted caps path →
      Comparison ("LOWER(" ++ path ++ ") LIKE LOWER(?)")
  /-- With a list of placeholders. -/
  | list {path marks : Text} : Quoted caps path → Chain ", " (fun mark => mark = "?") marks →
      Comparison (path ++ " IN (" ++ marks ++ ")")

/-- One comparison, or several under one keyword between parentheses. -/
inductive Cond : Text → Prop where
  /-- One comparison. -/
  | comparison {s : Text} : Comparison caps s → Cond s
  /-- All members hold. -/
  | all {members : Text} : Chain " AND " (Comparison caps) members → Cond ("(" ++ members ++ ")")
  /-- Some member holds. -/
  | some {members : Text} : Chain " OR " (Comparison caps) members → Cond ("(" ++ members ++ ")")

/-! ## Sections -/

/-- The limit in front of the select list. -/
inductive Top : Text → Prop where
  /-- There is none. -/
  | absent : Top []
  /-- There is one, in dialects that write it there. -/
  | present {n : Text} : caps.window = .topFetch → Decimal n → Top ("TOP " ++ n ++ " ")

/-- The first section. -/
inductive Selection : Text → Prop where
  /-- What is selected from which table. -/
  | intro {top entries table : Text} : Top caps top → Chain ", " (Entry caps) entries →
      Table caps table → Selection ("SELECT " ++ top ++ entries ++ " FROM " ++ table)

/-- A joined table with two operands or more. -/
inductive Joined : Text → Prop where
  /-- The operands are chained by equality. -/
  | intro {table first others : Text} : Table caps table → Path first →
      Chain " = " Path others → Joined ("JOIN " ++ table ++ " ON " ++ first ++ " = " ++ others)

/-- A clause on rows, or on groups of rows: a keyword with conditions. -/
inductive Clause (keyword : Text) : Text → Prop where
  /-- All of the conditions hold. -/
  | intro {conditions : Text} : Chain " AND " (Cond caps) conditions →
      Clause keyword (keyword ++ " " ++ conditions)

/-- The grouping. -/
inductive Grouping : Text → Prop where
  /-- The columns to group by. -/
  | intro {columns : Text} : Chain ", " (Quoted caps) columns → Grouping ("GROUP BY " ++ columns)

/-- The ordering. -/
inductive Ordering : Text → Prop where
  /-- By a column. -/
  | column {path sense : Text} : Quoted caps path → sense ∈ (["ASC", "DESC"] : List Text) →
      Ordering ("ORDER BY " ++ path ++ " " ++ sense)
  /-- By nothing. -/
  | nothing : Ordering "ORDER BY (SELECT NULL)"

/-- The last section, which takes a window of the rows in the way of the dialect. -/
inductive Paging : Text → Prop where
  /-- A limit. -/
  | limit {n : Text} : caps.window = .limitOffset → Decimal n → Paging ("LIMIT " ++ n)
  /-- A limit and an offset. -/
  | limitOffset {n m : Text} : caps.window = .limitOffset → Decimal n → Decimal m →
      Paging ("LIMIT " ++ n ++ " OFFSET " ++ m)
  /-- An offset, in dialects that allow it to stand alone. -/
  | offset {m : Text} : caps.window = .limitOffset → caps.unboundedLimit = none → Decimal m →
      Paging ("OFFSET " ++ m)
  /-- An offset behind the limit for all rows, in dialects that do not. -/
  | unbounded {all m : Text} : caps.window = .limitOffset → caps.unboundedLimit = some all →
      Decimal m → Paging ("LIMIT " ++ all ++ " OFFSET " ++ m)
  /-- An offset in rows. -/
  | rows {m : Text} : caps.window = .topFetch → Decimal m → Paging ("OFFSET " ++ m ++ " ROWS")
  /-- An offset in rows and how many to fetch. -/
  | fetch {n m : Text} : caps.window = .topFetch → Decimal m → Decimal n →
      Paging ("OFFSET " ++ m ++ " ROWS FETCH NEXT " ++ n ++ " ROWS ONLY")

end Phrases

/-- A section that may be missing, as the list of its lines. -/
inductive Optional (Line : Text → Prop) : List Text → Prop where
  /-- It is missing. -/
  | absent : Optional Line []
  /-- It is one line. -/
  | present {line : Text} : Line line → Optional Line [line]

/-- A statement: its sections in their order, each on a line of its own. -/
inductive Sentence (caps : Capabilities) : Text → Prop where
  /-- The first section is always there, joins any number of times, every other at most once. -/
  | intro {selection : Text} {joins rows grouping groups ordering paging : List Text} :
      Selection caps selection → (∀ line ∈ joins, Joined caps line) →
      Optional (Clause caps "WHERE") rows → Optional (Grouping caps) grouping →
      Optional (Clause caps "HAVING") groups → Optional (Ordering caps) ordering →
      Optional (Paging caps) paging →
      Sentence caps (['\n'].intercalate
        (selection :: (joins ++ rows ++ grouping ++ groups ++ ordering ++ paging)))

/-! ## Writing names and numbers -/

theorem nameStart_of_isNameStart {c : Char} (h : isNameStart c = true) : NameStart c := by
  unfold isNameStart Char.isAlpha Char.isUpper Char.isLower at h
  simp only [Bool.or_eq_true, Bool.and_eq_true, decide_eq_true_eq] at h
  rcases h with (⟨low, high⟩ | ⟨low, high⟩) | underscore
  · exact .inl ⟨low, high⟩
  · exact .inr (.inl ⟨low, high⟩)
  · exact .inr (.inr underscore)

theorem digit_of_isDigit {c : Char} (h : c.isDigit = true) : Digit c := by
  simp only [Char.isDigit, Bool.and_eq_true, decide_eq_true_eq] at h
  exact ⟨h.1, h.2⟩

theorem nameStart_or_digit_of_isNameChar {c : Char} (h : isNameChar c = true) :
    NameStart c ∨ Digit c := by
  simp only [isNameChar, Char.isAlphanum, Bool.or_eq_true] at h
  rcases h with (alpha | digit) | underscore
  · exact .inl (nameStart_of_isNameStart (by simp [isNameStart, alpha]))
  · exact .inr (digit_of_isDigit digit)
  · exact .inl (nameStart_of_isNameStart (by simp [isNameStart, of_decide_eq_true underscore]))

theorem name_of_isName {s : Text} (h : isName s = true) : Name s := by
  cases s with
  | nil => cases h
  | cons c rest =>
    simp only [isName, Bool.and_eq_true, List.all_eq_true] at h
    refine .intro (nameStart_of_isNameStart h.1) fun d hd => ?_
    exact nameStart_or_digit_of_isNameChar (h.2 d hd)

theorem decimal_toText (n : Count) : Decimal n.toText := by
  refine ⟨Nat.toDigits_ne_nil, fun c hc => digit_of_isDigit ?_⟩
  exact Count.isDigit_of_mem_toText hc

/-- Parts with a separator in between are a chain. -/
theorem chain_intercalate {separator : Text} {Part : Text → Prop} {parts : List Text}
    (ne : parts ≠ []) (h : ∀ part ∈ parts, Part part) :
    Chain separator Part (separator.intercalate parts) := by
  induction parts with
  | nil => exact absurd rfl ne
  | cons part rest ih =>
    have first := h part (by simp)
    cases rest with
    | nil =>
      rw [List.intercalate_singleton]
      exact .last first
    | cons next rest =>
      rw [List.intercalate_cons_cons]
      exact .more first (ih (by simp) fun p hp => h p (List.mem_cons_of_mem part hp))

/-- What items are written as is a chain when each of them is written as a part. -/
theorem chain_intercalate_map {α : Type} {separator : Text} {Part : Text → Prop} {items : List α}
    {write : α → Text} (ne : items ≠ []) (h : ∀ item ∈ items, Part (write item)) :
    Chain separator Part (separator.intercalate (items.map write)) := by
  refine chain_intercalate (by simpa using ne) fun part hp => ?_
  obtain ⟨item, hi, rfl⟩ := List.mem_map.1 hp
  exact h item hi

theorem path_of_isIdentifier {s : Text} (h : isIdentifier s = true) : Path s := by
  obtain ⟨names, ne, all, rfl⟩ := isIdentifier_iff.1 h
  exact chain_intercalate ne fun name hn => name_of_isName (all name hn)

section Writing

variable {caps : Capabilities} (regular : caps.Regular)

include regular

theorem quoted_quote {s : Text} (h : isIdentifier s = true) : Quoted caps (caps.quote s) := by
  obtain ⟨names, ne, all, -, quoted⟩ := regular.exists_quote_of_isIdentifier h
  rw [quoted]
  exact chain_intercalate_map ne fun name hn => .intro (name_of_isName (all name hn))

theorem table_tableReference {s : Text} (h : isIdentifier s = true) :
    Table caps (caps.tableReference s) := by
  have path := quoted_quote regular h
  unfold Capabilities.tableReference
  split
  · next hint locked =>
    have written : Table caps (caps.quote s ++ [' '] ++ hint) := .locked locked path
    rwa [List.append_assoc] at written
  · next bare => exact .bare bare path

/-! ## Writing sections -/

theorem entry_toSql {p : Projection} (h : p.WellFormed) : Entry caps (p.toSql caps) := by
  cases p with
  | wildcard => exact .star
  | column name => exact .column (quoted_quote regular h)
  | expression text => exact .expression h.1

theorem chain_selectList {projection : List Projection} (exclude : Bool)
    (h : ∀ p ∈ projection, p.WellFormed) :
    Chain ", " (Entry caps) (selectList caps projection exclude) := by
  unfold selectList
  split
  · exact .last .star
  · next entries =>
    rw [not_or] at entries
    exact chain_intercalate_map entries.1 fun p hp => entry_toSql regular (h p hp)

/-- A well-formed predicate is written as one comparison, whatever its operator. -/
theorem comparison_fragment {p : Predicate} (h : p.WellFormed) :
    Comparison caps (p.fragment caps).sql := by
  have path := quoted_quote regular h.column
  obtain ⟨column, operator, operand⟩ := p
  unfold Predicate.fragment
  dsimp only at path ⊢
  generalize caps.quote column = quoted at path ⊢
  split
  · next isIn =>
    have items : operand.items ≠ [] := by
      cases h.operand with
      | list ne => exact ne
      | single other => exact absurd isIn other
    have marks : Chain ", " (fun mark => mark = "?")
        ((", " : Text).intercalate (operand.items.map fun _ => "?")) :=
      chain_intercalate_map items fun _ _ => rfl
    have written := Comparison.list path marks
    simpa [Fragment.sql_join, Function.comp_def, Piece.placeholder] using written
  · next single =>
    -- The word for `ilike` is written by dialects that have it and by no other.
    split
    · next lowered =>
      simpa [Piece.placeholder] using Comparison.lowered lowered.2 path
    · next plain =>
      by_cases ilike : operator = .ilike
      · have able : caps.supportsIlike = true := by
          cases able : caps.supportsIlike with
          | true => rfl
          | false => exact absurd ⟨ilike, able⟩ plain
        have symbol : operator.symbol = "ILIKE" := ilike ▸ rfl
        simpa [symbol, Piece.placeholder] using Comparison.ilike able path
      · have sign : operator.symbol ∈ (["=", "<>", ">", ">=", "<", "<=", "LIKE"] : List Text) := by
          cases operator with
          | ilike => exact absurd rfl ilike
          | isIn => exact absurd rfl single
          | _ => decide
        simpa [Piece.placeholder] using Comparison.sign path sign

theorem cond_fragment {c : Condition} (h : c.WellFormed) : Cond caps (c.fragment caps).sql := by
  cases h with
  | predicate hp => exact .comparison (comparison_fragment regular hp)
  | @group g ne members =>
    have chain : ∀ separator, Chain separator (Comparison caps)
        (separator.intercalate (g.members.map fun p => (p.fragment caps).sql)) := fun separator =>
      chain_intercalate_map ne fun p hp => comparison_fragment regular (members p hp)
    have sql : (Condition.fragment caps (.group g)).sql =
        "(" ++ (" " ++ g.combinator.keyword ++ " ").intercalate
          (g.members.map fun p => (p.fragment caps).sql) ++ ")" := by
      simp [Condition.fragment, Group.fragment, Fragment.sql_join, Function.comp_def]
    rw [sql]
    cases g.combinator with
    | and => exact .all (chain " AND ")
    | or => exact .some (chain " OR ")

/-- The conditions, if there are any, are one clause under the keyword. -/
theorem optional_conditionClause? (keyword : Text) {conditions : List Condition}
    (h : ∀ c ∈ conditions, c.WellFormed) :
    Optional (Clause caps keyword)
      ((conditionClause? caps keyword conditions).toList.map Fragment.sql) := by
  unfold conditionClause?
  split
  · exact .absent
  · next ne =>
    have chain : Chain " AND " (Cond caps)
        ((" AND " : Text).intercalate (conditions.map fun c => (c.fragment caps).sql)) :=
      chain_intercalate_map ne fun c hc => cond_fragment regular (h c hc)
    have written : Clause caps keyword _ := .intro chain
    refine .present ?_
    simpa [Fragment.sql_join, Function.comp_def] using written

theorem joined_toSql {j : Join} (h : j.WellFormed) : Joined caps (j.toSql caps) := by
  have table := table_tableReference regular h.table
  obtain ⟨name, operands⟩ := j
  obtain ⟨-, paths, two⟩ := h
  -- Two operands or more are a first one and a list of others that is not empty.
  cases operands with
  | nil => cases two
  | cons first others =>
    cases others with
    | nil =>
      have few : 2 ≤ 1 := two
      omega
    | cons second rest =>
      have path := path_of_isIdentifier (paths first (by simp))
      have chain : Chain " = " Path ((" = " : Text).intercalate (second :: rest)) :=
        chain_intercalate (by simp) fun operand ho =>
          path_of_isIdentifier (paths operand (List.mem_cons_of_mem first ho))
      -- The writer joins all operands at once, the grammar sets the first one apart.
      have written := Joined.intro table path chain
      unfold Join.toSql
      rw [List.intercalate_cons_cons]
      simpa only [List.append_assoc] using written

theorem optional_groupingLine? {columns : List Text}
    (h : ∀ column ∈ columns, isIdentifier column = true) :
    Optional (Grouping caps) (groupingLine? caps columns).toList := by
  unfold groupingLine?
  split
  · exact .absent
  · next ne =>
    refine .present (.intro ?_)
    exact chain_intercalate_map ne fun column hc => quoted_quote regular (h column hc)

theorem optional_orderingLine? {order : Option SortKey} (needed : Bool)
    (h : ∀ key ∈ order, isIdentifier key.column = true) :
    Optional (Ordering caps) (orderingLine? caps order needed).toList := by
  unfold orderingLine?
  split
  · next key =>
    have sense : key.direction.keyword ∈ (["ASC", "DESC"] : List Text) := by
      cases key.direction with
      | asc => exact List.mem_cons_self
      | desc => exact List.mem_cons_of_mem _ List.mem_cons_self
    exact .present (.column (quoted_quote regular (h key rfl)) sense)
  · split
    · exact .present .nothing
    · exact .absent

omit regular

/-- A line that may be missing is an optional section when it is right where it is there. -/
theorem optional_toList {Line : Text → Prop} {line? : Option Text}
    (h : ∀ line, line? = some line → Line line) : Optional Line line?.toList := by
  cases line? with
  | none => exact .absent
  | some line => exact .present (h line rfl)

theorem paging_limitOffset? (window : caps.window = .limitOffset) {w : Window} {line : Text}
    (h : w.limitOffset? caps = some line) : Paging caps line := by
  rcases Window.limitOffset?_cases h with
    ⟨n, rfl⟩ | ⟨n, m, rfl⟩ | ⟨m, bare, rfl⟩ | ⟨all, m, unbounded, rfl⟩
  · exact .limit window (decimal_toText n)
  · exact .limitOffset window (decimal_toText n) (decimal_toText m)
  · exact .offset window bare (decimal_toText m)
  · exact .unbounded window unbounded (decimal_toText m)

theorem paging_fetch (window : caps.window = .topFetch) (limit : Option Count) (m : Count) :
    Paging caps (Window.fetch limit m) := by
  cases limit with
  | none =>
    rw [Window.fetch_none]
    exact .rows window (decimal_toText m)
  | some n =>
    rw [Window.fetch_some]
    exact .fetch window (decimal_toText m) (decimal_toText n)

theorem optional_suffix (w : Window) :
    Optional (Paging caps) (w.placement caps).suffix.toList := by
  refine optional_toList fun line h => ?_
  rcases Window.suffix_cases h with ⟨window, h⟩ | ⟨window, m, rfl⟩
  · exact paging_limitOffset? window h
  · exact paging_fetch window w.limit m

/-- A limit stands in front of the select list in dialects that write it there. -/
theorem window_of_top {w : Window} {n : Count} (h : (w.placement caps).top = some n) :
    caps.window = .topFetch := by
  unfold Window.placement at h
  split at h
  · cases h
  · assumption

end Writing

/-! ## Writing statements -/

theorem selection_ofQuery {caps : Capabilities} (regular : caps.Regular) {table : Text} {q : Query}
    (valid : isIdentifier table = true) (h : q.WellFormed) :
    Selection caps (Statement.ofQuery caps table q).selection := by
  have entries := chain_selectList regular q.exclude h.projection
  have reference := table_tableReference regular valid
  -- The keyword stands between two blanks, of which the writer counts one to each part.
  have keyword : ∀ s t : Text, s ++ " FROM " ++ t = s ++ " " ++ ("FROM " ++ t) := by
    intro s t
    rw [List.append_assoc, List.append_assoc]
    rfl
  unfold Statement.ofQuery selectPart fromPart
  dsimp only
  rw [← keyword]
  generalize caps.tableReference table = joined at reference ⊢
  cases limit : (q.window.placement caps).top with
  | none => exact .intro .absent entries reference
  | some n => exact .intro (.present (window_of_top limit) (decimal_toText n)) entries reference

end Grammar

theorem Fragment.map_sql_raw (texts : List Text) : (texts.map raw).map sql = texts := by
  simp [Function.comp_def]

theorem Fragment.map_sql_toList (line : Option Text) :
    (line.map raw).toList.map sql = line.toList := by
  cases line <;> simp

/-- The lines of a statement as texts. -/
theorem Statement.map_sql_sections (s : Statement) :
    s.sections.map Fragment.sql =
      s.selection :: (s.joins ++ s.rows.toList.map Fragment.sql ++ s.grouping.toList ++
        s.groups.toList.map Fragment.sql ++ s.ordering.toList ++ s.window.toList) := by
  simp only [sections, List.map_append, List.map_cons, Fragment.sql_raw,
    Fragment.map_sql_raw, Fragment.map_sql_toList, List.append_assoc, List.cons_append,
    List.nil_append]

/-- Whatever the parameters, the table and the dialect, a compiled statement is a sentence of the
grammar. -/
theorem Dialect.sentence_of_compile {dialect : Dialect} {table : Text} {p : Params} {c : Compiled}
    (h : dialect.compile table p = .ok c) : Grammar.Sentence dialect.capabilities c.sql := by
  obtain ⟨valid, -, wellFormed, rfl⟩ := exists_of_compile h
  have regular := dialect.regular
  generalize dialect.capabilities = caps at regular ⊢
  generalize Query.kept p = q at wellFormed ⊢
  have joins : ∀ line ∈ (Statement.ofQuery caps table q).joins, Grammar.Joined caps line := by
    intro line hl
    obtain ⟨j, hj, rfl⟩ := List.mem_map.1 hl
    exact Grammar.joined_toSql regular (wellFormed.joins j hj)
  have sentence := Grammar.Sentence.intro (Grammar.selection_ofQuery regular valid wellFormed) joins
    (Grammar.optional_conditionClause? regular "WHERE" wellFormed.conditions)
    (Grammar.optional_groupingLine? regular wellFormed.grouping)
    (Grammar.optional_conditionClause? regular "HAVING" wellFormed.having)
    (Grammar.optional_orderingLine? regular (q.window.placement caps).needsOrder wellFormed.order)
    (Grammar.optional_suffix q.window)
  rw [Fragment.sql_join, Statement.map_sql_sections]
  exact sentence

/-- Blanks and line breaks around an alias are part of the expression. A limit of zero stands in
front of the select list whatever the offset. -/
theorem Dialect.sentence_of_compile_join :
    let p := Params.ofPairs [("limit", "0"), ("offset", "7"), ("join", "u:on=t.id = u.t_id"),
      ("select", "name,u.id\nAS\tuid"), ("or", "(a.ilike.') OR 1=1 --,b.in.(1,2))")]
    let c : Compiled :=
      ⟨"SELECT TOP 0 [name], u.id\nAS\tuid FROM [t] WITH (NOLOCK)\n" ++
        "JOIN [u] WITH (NOLOCK) ON t.id = u.t_id\n" ++
        "WHERE (LOWER([a]) LIKE LOWER(?) OR [b] IN (?, ?))",
        ["') OR 1=1 --", "1", "2"]⟩
    mssql.compile "t" p = .ok c ∧ Grammar.Sentence mssql.capabilities c.sql := by
  intro p c
  have compiled : mssql.compile "t" p = .ok c := by decide +kernel
  exact ⟨compiled, sentence_of_compile compiled⟩

end FilterSql
