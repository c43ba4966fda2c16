/-
# FilterSql.Proofs.Window.Ordering -- limit, offset and ordering in the lines of a statement

Where rows can be passed over behind an ordering only, three parts of a statement have to agree: the
limit in front of the select list, the ordering, and the last line. `PagesByFetch` says on the text
of the lines that they do, over every combination of limit, offset and sort column that parameters
can give, and `PagesByLimit` that the other dialects write none of what only this one needs.

A line is told by what it starts with. That is safe for the line that passes over rows and for the
ordering, which no other line starts like. A select list is another matter: it may start with an
expression of the user, and this one with the word `TOP`. But a number never follows there.
-/

import FilterSql.Proofs.Query.LastValues
import FilterSql.Proofs.Statement.Grammar
import FilterSql.Proofs.Text.Cuts

namespace FilterSql

/-! ## Where a numeral ends -/

namespace Count

theorem toText_injective {n m : Count} (h : n.toText = m.toText) : n = m := by
  have read := ofDigits?_toText n
  rw [h, ofDigits?_toText] at read
  exact (Option.some.inj read).symm

/-- A numeral ends where its digits end. -/
theorem toText_append_inj {n m : Count} {c d : Char} {s t : Text} (hc : c.isDigit = false)
    (hd : d.isDigit = false) (same : n.toText ++ c :: s = m.toText ++ d :: t) :
    n = m ∧ c = d ∧ s = t := by
  obtain ⟨digits, rest⟩ := append_cons_inj (fun _ => isDigit_of_mem_toText)
    (fun _ => isDigit_of_mem_toText) hc hd same
  exact ⟨toText_injective digits, rest⟩

/-- A numeral starts with a digit. -/
theorem exists_toText_eq_cons (n : Count) : ∃ d rest, d.isDigit = true ∧ n.toText = d :: rest := by
  have ne : n.toText ≠ [] := Nat.toDigits_ne_nil
  obtain ⟨d, rest, text⟩ := List.exists_cons_of_ne_nil ne
  have first : d ∈ n.toText := text ▸ List.mem_cons_self
  exact ⟨d, rest, isDigit_of_mem_toText first, text⟩

end Count

/-! ## No select list starts like a limit -/

/-- Behind an entry of a select list comes the next one or the table. -/
inductive Continues : Text → Prop where
  /-- The next entry. -/
  | comma {rest : Text} : Continues (',' :: rest)
  /-- The table. -/
  | table {rest : Text} : Continues (' ' :: 'F' :: rest)

/-- The text starts with the keyword of a limit and a digit. -/
def StartsTop (s : Text) : Prop :=
  ∃ d rest, Char.isDigit d = true ∧ s = "TOP".toList ++ ' ' :: d :: rest

theorem isAlpha_eq_false_of_isDigit {d : Char} (h : d.isDigit = true) : d.isAlpha = false := by
  simp only [Char.isDigit, Bool.and_eq_true, decide_eq_true_eq, UInt32.le_iff_toNat_le] at h
  have high : d.toNat ≤ 57 := h.2
  unfold Char.isAlpha Char.isUpper Char.isLower
  simp only [Bool.or_eq_false_iff, Bool.and_eq_false_iff, decide_eq_false_iff_not,
    UInt32.le_iff_toNat_le, ge_iff_le]
  have capital : ¬ 65 ≤ d.toNat := by omega
  have small : ¬ 97 ≤ d.toNat := by omega
  exact ⟨fun range => capital range.1, .inl small⟩

namespace Expression

/-- No alias starts with a digit behind one space. -/
theorem isAlias_eq_false {d : Char} (digit : d.isDigit = true) (rest : Text) :
    isAlias (' ' :: d :: rest) = false := by
  have solid : Text.isBlank d = false :=
    isBlank_eq_false_of_isNameChar (by simp [isNameChar, Char.isAlphanum, digit])
  have keyword : Text.trimStart (' ' :: d :: rest) = d :: rest := by
    have space : Text.isBlank ' ' = true := rfl
    rw [Text.trimStart, List.dropWhile_cons_of_pos space,
      List.dropWhile_cons_of_neg (by simp [solid])]
  have letter : foldCase d ≠ 'a' := by
    intro folded
    rcases isAlpha_or_eq_of_foldCase (c := d) (by rw [folded]; rfl) (by rw [folded]; decide) with
      alpha | rfl
    · rw [isAlpha_eq_false_of_isDigit digit] at alpha
      cases alpha
    · cases digit
  have other : ((d :: rest).take 2).map foldCase ≠ "as".toList := fun same =>
    letter (List.cons.inj same).1
  rw [isAlias, keyword, decide_eq_false other, Bool.and_false, Bool.false_and, Bool.false_and]

/-- A column ends before the space, and what follows is an alias or the rest of the list. -/
theorem not_startsTop_of_isColumn {s rest : Text} (h : isColumn s = true)
    (follows : Continues rest) : ¬ StartsTop (s ++ rest) := by
  rintro ⟨d, tail, digit, same⟩
  let keep := fun c => isNameChar c || c = '.'
  rw [isColumn, Bool.and_eq_true] at h
  have column : ∀ c ∈ s.takeWhile keep, keep c = true := List.all_eq_true.1 List.all_takeWhile
  have word : ∀ c ∈ "TOP".toList, keep c = true := List.all_eq_true.1 rfl
  rw [← List.takeWhile_append_dropWhile (p := keep) (l := s), List.append_assoc] at same
  cases behind : s.dropWhile keep with
  | nil =>
    rw [behind, List.nil_append] at same
    cases follows with
    | comma =>
      have parted := append_cons_inj column word rfl rfl same
      exact absurd parted.2.1 (by decide)
    | table =>
      obtain ⟨-, -, next⟩ := append_cons_inj column word rfl rfl same
      rw [← (List.cons.inj next).1] at digit
      cases digit
  | cons c others =>
    have stop : keep c = false := by
      have first := List.head?_dropWhile_not keep s
      rw [behind] at first
      exact first
    rw [behind, List.cons_append] at same
    obtain ⟨-, rfl, next⟩ := append_cons_inj column word stop rfl same
    have rename : isTail (' ' :: others) = true := behind ▸ h.2
    cases others with
    | nil => exact absurd rename (by decide)
    | cons e others =>
      rw [(List.cons.inj next).1, isTail, isAlias_eq_false digit] at rename
      cases rename

/-- The parenthesis of a call stands directly behind the name of an aggregate. -/
theorem not_startsTop_of_isCall {s rest : Text} (h : isCall s = true) :
    ¬ StartsTop (s ++ rest) := by
  rintro ⟨d, rest', -, same⟩
  obtain ⟨name, arguments, tail, rfl, unopened, aggregate, -, -⟩ := cases_of_isCall h
  have folded : name.map foldCase ∈ aggregates := List.contains_iff_mem.1 aggregate
  have named : ∀ c ∈ name, decide (c ≠ ' ' ∧ c ≠ '(') = true := by
    intro c hc
    refine decide_eq_true ⟨?_, ?_⟩
    · rintro rfl
      have spaced : ∀ word ∈ aggregates, ' ' ∉ word := by decide
      exact spaced _ folded (List.mem_map.2 ⟨' ', hc, rfl⟩)
    · rintro rfl
      exact unopened hc
  have word : ∀ c ∈ "TOP".toList, decide (c ≠ ' ' ∧ c ≠ '(') = true := List.all_eq_true.1 rfl
  rw [List.append_assoc, List.append_assoc] at same
  have parted := append_cons_inj named word (by decide) (by decide) same
  exact absurd parted.2.1 (by decide)

end Expression

/-- A quoted name starts with a mark. -/
theorem Capabilities.exists_quote_eq_cons (caps : Capabilities) (name : Text) :
    ∃ rest, caps.quote name = caps.openQuote :: rest := by
  obtain ⟨segment, others, cut⟩ := List.exists_cons_of_ne_nil (List.splitOn_ne_nil '.' name)
  rw [quote, cut, List.map_cons]
  cases others with
  | nil => exact ⟨_, List.intercalate_singleton⟩
  | cons next others => exact ⟨_, List.intercalate_cons_cons⟩

section SelectList

variable {caps : Capabilities} (regular : caps.Regular)

include regular

theorem Projection.not_startsTop_toSql {p : Projection} (h : p.WellFormed) {rest : Text}
    (follows : Continues rest) : ¬ StartsTop (p.toSql caps ++ rest) := by
  cases p with
  | wildcard =>
    rintro ⟨d, tail, -, same⟩
    exact absurd (List.cons.inj same).1 (by decide)
  | column name =>
    rintro ⟨d, tail, -, same⟩
    obtain ⟨others, quoted⟩ := caps.exists_quote_eq_cons name
    rw [toSql, quoted] at same
    have letter : isSqlChar caps.openQuote = true := by
      rw [(List.cons.inj same).1]
      decide
    rw [regular.openQuote] at letter
    cases letter
  | expression text =>
    obtain ⟨accepted, trimmed, -⟩ := h
    rw [isExpression, Text.trim_eq_self_iff.2 trimmed, Bool.or_eq_true] at accepted
    rcases accepted with column | call
    · exact Expression.not_startsTop_of_isColumn column follows
    · exact Expression.not_startsTop_of_isCall call

/-- Between the keyword and the table no select list reads like a limit. -/
theorem not_startsTop_selectList {projection : List Projection}
    (h : ∀ p ∈ projection, p.WellFormed) (exclude : Bool) (rest : Text) :
    ¬ StartsTop (selectList caps projection exclude ++ ' ' :: 'F' :: rest) := by
  unfold selectList
  split
  · rintro ⟨d, tail, -, same⟩
    exact absurd (List.cons.inj same).1 (by decide)
  · next listed =>
    obtain ⟨p, others, rfl⟩ := List.exists_cons_of_ne_nil (fun none => listed (.inl none))
    have first := h p List.mem_cons_self
    cases others with
    | nil =>
      rw [List.map_singleton, List.intercalate_singleton]
      exact Projection.not_startsTop_toSql regular first .table
    | cons next others =>
      rw [List.map_cons, List.map_cons, List.intercalate_cons_cons, List.append_assoc,
        List.append_assoc]
      exact Projection.not_startsTop_toSql regular first .comma

end SelectList

/-! ## Lines -/

namespace Line

/-- The line orders the rows. -/
def Orders (line : Text) : Prop := "ORDER BY ".toList <+: line

/-- The line passes over so many rows, as is allowed behind an ordering. -/
def Passes (m : Count) (line : Text) : Prop :=
  "OFFSET ".toList ++ m.toText ++ " ROWS".toList <+: line

/-- The line passes over so many rows and keeps so many of the others. -/
def Fetches (m n : Count) (line : Text) : Prop :=
  line = "OFFSET ".toList ++ m.toText ++ " ROWS FETCH NEXT ".toList ++ n.toText ++
    " ROWS ONLY".toList

/-- The line keeps so many rows before it selects anything. -/
def Tops (n : Count) (line : Text) : Prop := "SELECT TOP ".toList ++ n.toText ++ " ".toList <+: line

/-- The line for an ordering that was asked for. -/
def ofSortKey (caps : Capabilities) (key : SortKey) : Text :=
  "ORDER BY ".toList ++ caps.quote key.column ++ " ".toList ++ key.direction.keyword

/-- The line for an ordering that orders nothing. -/
def unordered : Text := "ORDER BY (SELECT NULL)"

theorem Orders.head? {line : Text} (h : Orders line) : line.head? = some 'O' := by
  obtain ⟨rest, rfl⟩ := h
  rfl

theorem Passes.head? {m : Count} {line : Text} (h : Passes m line) : line.head? = some 'O' := by
  obtain ⟨rest, rfl⟩ := h
  rfl

theorem Tops.head? {n : Count} {line : Text} (h : Tops n line) : line.head? = some 'S' := by
  obtain ⟨rest, rfl⟩ := h
  rfl

theorem orders_ofSortKey (caps : Capabilities) (key : SortKey) : Orders (ofSortKey caps key) := by
  unfold ofSortKey Orders
  simp only [List.append_assoc]
  exact List.prefix_append _ _

theorem orders_unordered : Orders unordered := ⟨noOrder, rfl⟩

theorem orders_getD (caps : Capabilities) (order : Option SortKey) :
    Orders ((order.map (ofSortKey caps)).getD unordered) := by
  cases order with
  | none => exact orders_unordered
  | some key => exact orders_ofSortKey caps key

/-- The ordering that was asked for, or else the one that orders nothing where one is needed. -/
theorem orderingLine?_eq (caps : Capabilities) (order : Option SortKey) (needed : Bool) :
    orderingLine? caps order needed =
      if needed then some ((order.map (ofSortKey caps)).getD unordered)
      else order.map (ofSortKey caps) := by
  unfold orderingLine?
  cases order with
  | some key => cases needed <;> rfl
  | none => cases needed <;> rfl

/-- A quoted column is not the ordering that orders nothing. -/
theorem ofSortKey_ne_unordered {caps : Capabilities} (regular : caps.Regular) (key : SortKey) :
    ofSortKey caps key ≠ unordered := by
  obtain ⟨rest, quoted⟩ := caps.exists_quote_eq_cons key.column
  intro same
  unfold ofSortKey at same
  rw [quoted] at same
  have parenthesis : some caps.openQuote = some '(' := congrArg (fun s : Text => s[9]?) same
  have solid := regular.openQuote
  rw [Option.some.inj parenthesis] at solid
  cases solid

theorem Orders.not_tops {line : Text} (h : Orders line) (n : Count) : ¬ Tops n line :=
  fun tops => absurd (tops.head?.symm.trans h.head?) (by decide)

/-- The two words that start with the same letter differ in the next. -/
theorem Orders.not_passes {line : Text} (h : Orders line) (m : Count) : ¬ Passes m line := by
  obtain ⟨rest, rfl⟩ := h
  rintro ⟨rest', same⟩
  have second : some 'F' = some 'R' := congrArg (fun s : Text => s[1]?) same
  exact absurd second (by decide)

theorem passes_fetch_iff {limit : Option Count} {m m' : Count} :
    Passes m (Window.fetch limit m') ↔ m = m' := by
  constructor
  · rintro ⟨rest, same⟩
    unfold Window.fetch at same
    simp only [List.append_assoc] at same
    exact (Count.toText_append_inj rfl rfl (List.append_cancel_left same)).1
  · rintro rfl
    exact List.prefix_append _ _

theorem Fetches.passes {m n : Count} {line : Text} (h : Fetches m n line) : Passes m line := by
  have rows : " ROWS FETCH NEXT ".toList = " ROWS".toList ++ " FETCH NEXT ".toList := by decide
  rw [h, Passes, rows]
  simp only [List.append_assoc, List.prefix_append_right_inj]
  exact List.prefix_append _ _

theorem fetches_fetch_iff {limit : Option Count} {m m' n : Count} :
    Fetches m n (Window.fetch limit m') ↔ m = m' ∧ limit = some n := by
  constructor
  · intro h
    have rows : m = m' := passes_fetch_iff.1 h.passes
    subst rows
    refine ⟨rfl, ?_⟩
    unfold Fetches at h
    cases limit with
    | none =>
      rw [Window.fetch_none] at h
      simp only [List.append_assoc] at h
      have ends : none = some ' ' := congrArg (fun s : Text => s[5]?)
        (List.append_cancel_left (List.append_cancel_left h))
      cases ends
    | some k =>
      rw [Window.fetch_some] at h
      simp only [List.append_assoc] at h
      have kept := List.append_cancel_left (List.append_cancel_left (List.append_cancel_left h))
      rw [(Count.toText_append_inj rfl rfl kept).1]
  · rintro ⟨rfl, rfl⟩
    exact Window.fetch_some n m

theorem head?_limitOffset? {caps : Capabilities} {w : Window} {line : Text}
    (h : w.limitOffset? caps = some line) : line.head? ∈ [some 'L', some 'O'] := by
  have limit : some 'L' ∈ [some 'L', some 'O'] := by decide
  rcases Window.limitOffset?_cases h with ⟨n, rfl⟩ | ⟨n, m, rfl⟩ | ⟨m, -, rfl⟩ | ⟨all, m, -, rfl⟩
  · exact limit
  · exact limit
  · exact (by decide : some 'O' ∈ [some 'L', some 'O'])
  · exact limit

/-- The last line with limit and offset is of another kind. -/
theorem not_of_limitOffset? {caps : Capabilities} {w : Window} {line : Text}
    (h : w.limitOffset? caps = some line) :
    ¬ Orders line ∧ ∀ n, ¬ Tops n line ∧ ¬ Passes n line := by
  have limit : line.head? = some 'L' → ¬ Orders line ∧ ∀ n, ¬ Tops n line ∧ ¬ Passes n line :=
    fun letter => ⟨fun orders => absurd (letter.symm.trans orders.head?) (by decide), fun n =>
      ⟨fun tops => absurd (letter.symm.trans tops.head?) (by decide),
        fun passes => absurd (letter.symm.trans passes.head?) (by decide)⟩⟩
  rcases Window.limitOffset?_cases h with ⟨n, rfl⟩ | ⟨n, m, rfl⟩ | ⟨m, -, rfl⟩ | ⟨all, m, -, rfl⟩
  · exact limit rfl
  · exact limit rfl
  · refine ⟨?_, fun n => ⟨fun tops => ?_, ?_⟩⟩
    · rintro ⟨rest, same⟩
      have second : some 'R' = some 'F' := congrArg (fun s : Text => s[1]?) same
      exact absurd second (by decide)
    · exact absurd (show some 'O' = some 'S' from tops.head?) (by decide)
    · -- The offset ends the line, and there is no space in it.
      intro passes
      unfold Passes at passes
      rw [List.append_assoc, List.prefix_append_right_inj] at passes
      have space : ' ' ∈ m.toText := passes.subset (List.mem_append_right _ (by decide))
      exact absurd (Count.isDigit_of_mem_toText space) (by decide)
  · exact limit rfl

section Selection

variable {caps : Capabilities} (regular : caps.Regular) {projection : List Projection}
  (wellFormed : ∀ p ∈ projection, p.WellFormed) (exclude : Bool) (table : Text)

include regular wellFormed

theorem tops_selectPart_iff {top : Option Count} {n : Count} :
    Tops n (selectPart caps projection exclude top ++ " ".toList ++ fromPart caps table) ↔
      top = some n := by
  have keyword : "SELECT TOP ".toList = "SELECT ".toList ++ ("TOP".toList ++ [' ']) := by decide
  unfold Tops selectPart fromPart
  rw [keyword]
  simp only [List.append_assoc, List.prefix_append_right_inj]
  cases top with
  | none =>
    refine ⟨?_, fun h => by cases h⟩
    rintro ⟨rest, same⟩
    obtain ⟨d, digits, digit, text⟩ := n.exists_toText_eq_cons
    rw [text] at same
    exact absurd ⟨d, _, digit, same.symm⟩ (not_startsTop_selectList regular wellFormed exclude _)
  | some m =>
    have top : "TOP ".toList = "TOP".toList ++ [' '] := by decide
    simp only [top, List.append_assoc, List.prefix_append_right_inj, Option.some.injEq]
    constructor
    · rintro ⟨rest, same⟩
      rw [List.append_assoc] at same
      exact (Count.toText_append_inj rfl rfl same).1.symm
    · rintro rfl
      simp only [List.prefix_append_right_inj]
      exact List.prefix_append _ _

end Selection

end Line

/-! ## Statements line by line -/

namespace Statement

/-- The texts of the sections. -/
def lines (s : Statement) : List Text := s.sections.map Fragment.sql

/-- The lines in front of the ordering. -/
def front (s : Statement) : List Text :=
  s.selection :: (s.joins ++ s.rows.toList.map Fragment.sql ++ s.grouping.toList ++
    s.groups.toList.map Fragment.sql)

theorem lines_eq (s : Statement) : s.lines = s.front ++ s.ordering.toList ++ s.window.toList := by
  rw [lines, map_sql_sections, front]
  simp only [List.append_assoc, List.cons_append]

theorem head?_conditionClause? {caps : Capabilities} {keyword : Text} {conditions : List Condition}
    {f : Fragment} (h : conditionClause? caps keyword conditions = some f) (ne : keyword ≠ []) :
    f.sql.head? = keyword.head? := by
  unfold conditionClause? at h
  split at h
  · cases h
  · cases h
    rw [Fragment.sql_append, Fragment.sql_raw, List.append_assoc, List.head?_append_of_ne_nil _ ne]

/-- A line in front of the ordering is the first one, a join, or starts with another letter. -/
theorem cases_of_mem_front {caps : Capabilities} {table : Text} {q : Query} {line : Text}
    (h : line ∈ (ofQuery caps table q).front) :
    line = (ofQuery caps table q).selection ∨ (∃ j ∈ q.joins, line = j.toSql caps) ∨
      line.head? ∈ [some 'W', some 'G', some 'H'] := by
  simp only [front, List.mem_cons, List.mem_append, List.mem_map, Option.mem_toList] at h
  rcases h with first | ((join | ⟨f, rows, rfl⟩) | grouping) | ⟨f, groups, rfl⟩
  · exact .inl first
  · obtain ⟨j, mem, rfl⟩ := List.mem_map.1 join
    exact .inr (.inl ⟨j, mem, rfl⟩)
  · rw [head?_conditionClause? rows (by decide)]
    exact .inr (.inr (by decide))
  · have keyword : line.head? = some 'G' := by
      change groupingLine? caps q.grouping = some line at grouping
      unfold groupingLine? at grouping
      split at grouping
      · cases grouping
      · cases grouping
        rfl
    rw [keyword]
    exact .inr (.inr (by decide))
  · rw [head?_conditionClause? groups (by decide)]
    exact .inr (.inr (by decide))

/-- No line in front of the ordering starts like it, or like the line that passes over rows. -/
theorem head?_ne_of_mem_front {caps : Capabilities} {table : Text} {q : Query} {line : Text}
    (h : line ∈ (ofQuery caps table q).front) : line.head? ≠ some 'O' := by
  rcases cases_of_mem_front h with rfl | ⟨j, -, rfl⟩ | other
  · obtain ⟨rest, select⟩ := exists_selection_eq caps table q
    rw [select, List.head?_cons]
    decide
  · exact fun letter => absurd (show some 'J' = some 'O' from letter) (by decide)
  · intro letter
    rw [letter] at other
    exact absurd other (by decide)

/-- Only the first line in front of the ordering may start with a limit. -/
theorem tops_front_iff {caps : Capabilities} {table : Text} {q : Query} {n : Count} :
    (∃ line ∈ (ofQuery caps table q).front, Line.Tops n line) ↔
      Line.Tops n (ofQuery caps table q).selection := by
  constructor
  · rintro ⟨line, mem, tops⟩
    rcases cases_of_mem_front mem with rfl | ⟨j, -, rfl⟩ | other
    · exact tops
    · exact absurd (show some 'J' = some 'S' from tops.head?) (by decide)
    · rw [tops.head?] at other
      exact absurd other (by decide)
  · exact fun tops => ⟨_, List.mem_cons_self, tops⟩

end Statement

/-! ## Limit, offset and ordering -/

/-- How limit, offset and ordering agree where rows are passed over behind an ordering only. -/
structure PagesByFetch (caps : Capabilities) (w : Window) (order : Option SortKey)
    (lines : List Text) : Prop where
  /-- Rows are passed over exactly when there is an offset and the limit is not zero. -/
  passes : ∀ m, (∃ line ∈ lines, Line.Passes m line) ↔ w.offset = some m ∧ w.limit ≠ some 0
  /-- The line before is the only ordering, the one that was asked for or else the one that orders
  nothing, and no limit stands in front of the select list. -/
  ordered : ∀ paging ∈ lines, ∀ m, Line.Passes m paging →
    (∃ front, lines = front ++ [(order.map (Line.ofSortKey caps)).getD Line.unordered, paging] ∧
        ∀ line ∈ paging :: front, ¬ Line.Orders line) ∧
      ∀ line ∈ lines, ∀ n, ¬ Line.Tops n line
  /-- Of the other rows so many are kept as the limit says, and that is one at least. -/
  fetches : ∀ m n, (∃ line ∈ lines, Line.Fetches m n line) ↔
    w.offset = some m ∧ w.limit = some n ∧ 1 ≤ n.toNat
  /-- Where no rows are passed over, the ordering is never one that orders nothing, and the limit
  stands in front of the select list. -/
  plain : (∀ line ∈ lines, ∀ m, ¬ Line.Passes m line) →
    Line.unordered ∉ lines ∧ ∀ n, (∃ line ∈ lines, Line.Tops n line) ↔ w.limit = some n

/-- The other dialects write none of what this needs. -/
structure PagesByLimit (caps : Capabilities) (table : Text) (joins : List Join)
    (order : Option SortKey) (lines : List Text) : Prop where
  /-- No limit stands in front of the select list, and no line passes over rows in that way. -/
  plain : ∀ line ∈ lines, ∀ n, ¬ Line.Tops n line ∧ ¬ Line.Passes n line
  /-- Nothing stands behind the table that is selected from. -/
  selection : ∃ list, lines.head? =
    some ("SELECT ".toList ++ list ++ " FROM ".toList ++ caps.quote table)
  /-- Nothing stands between a joined table and its operands. -/
  joined : ∀ line ∈ lines, "JOIN ".toList <+: line → ∃ j ∈ joins,
    line = "JOIN ".toList ++ caps.quote j.table ++ " ON ".toList ++
      " = ".toList.intercalate j.operands
  /-- No ordering orders nothing. -/
  requested : Line.unordered ∉ lines
  /-- The rows are ordered exactly when that was asked for. -/
  ordered : (∃ line ∈ lines, Line.Orders line) ↔ order.isSome

/-- Where rows can be passed over behind an ordering only, a window has one of two places. -/
theorem Window.placement_topFetch {caps : Capabilities} (topFetch : caps.window = .topFetch)
    (w : Window) :
    (∃ m, w.offset = some m ∧ w.limit ≠ some 0 ∧
        w.placement caps = ⟨none, some (fetch w.limit m), caps.offsetNeedsOrder⟩) ∨
      (∀ m, w.offset = some m → w.limit = some 0) ∧ w.placement caps = ⟨w.limit, none, false⟩ := by
  unfold placement
  rw [topFetch]
  dsimp only
  cases offset : w.offset with
  | none => exact .inr ⟨fun _ h => (by cases h), rfl⟩
  | some m =>
    by_cases zero : w.limit = some 0
    · exact .inr ⟨fun _ _ => zero, if_pos zero⟩
    · exact .inl ⟨m, rfl, zero, if_neg zero⟩

namespace Statement

section Lines

variable {caps : Capabilities} (regular : caps.Regular) {table : Text} {q : Query}
  (wellFormed : q.WellFormed)

/-- The lines of a statement by the place of its window. -/
theorem lines_ofQuery {top : Option Count} {suffix : Option Text} {needsOrder : Bool}
    (placed : q.window.placement caps = ⟨top, suffix, needsOrder⟩) :
    (ofQuery caps table q).lines = (ofQuery caps table q).front ++
      (if needsOrder then some ((q.order.map (Line.ofSortKey caps)).getD Line.unordered)
        else q.order.map (Line.ofSortKey caps)).toList ++ suffix.toList := by
  rw [lines_eq]
  show _ ++ (orderingLine? caps q.order (q.window.placement caps).needsOrder).toList ++
    (q.window.placement caps).suffix.toList = _
  rw [placed, Line.orderingLine?_eq]

/-- No line in front of the ordering is an ordering or passes over rows. -/
theorem not_of_mem_front {line : Text} (h : line ∈ (ofQuery caps table q).front) :
    ¬ Line.Orders line ∧ ∀ m, ¬ Line.Passes m line :=
  ⟨fun orders => head?_ne_of_mem_front h orders.head?,
    fun _ passes => head?_ne_of_mem_front h passes.head?⟩

/-- Without a hint nothing stands behind the table of the first line. -/
theorem head?_lines_of_bare (bare : caps.lockHint = none)
    (untopped : (q.window.placement caps).top = none) :
    (ofQuery caps table q).lines.head? = some ("SELECT ".toList ++
      selectList caps q.projection q.exclude ++ " FROM ".toList ++ caps.quote table) := by
  have keyword : " FROM ".toList = " ".toList ++ "FROM ".toList := by decide
  rw [lines_eq, front, List.cons_append, List.cons_append, List.head?_cons]
  show some (selectPart caps q.projection q.exclude (q.window.placement caps).top ++
    " ".toList ++ fromPart caps table) = _
  rw [untopped, keyword]
  unfold selectPart fromPart Capabilities.tableReference
  simp only [bare, List.append_assoc, List.nil_append]

/-- Without a hint nothing stands behind a joined table. -/
theorem exists_of_mem_front_of_bare (bare : caps.lockHint = none) {line : Text}
    (h : line ∈ (ofQuery caps table q).front) (letter : line.head? = some 'J') :
    ∃ j ∈ q.joins, line = "JOIN ".toList ++ caps.quote j.table ++ " ON ".toList ++
      " = ".toList.intercalate j.operands := by
  rcases cases_of_mem_front h with rfl | ⟨j, joined, rfl⟩ | other
  · obtain ⟨rest, select⟩ := exists_selection_eq caps table q
    rw [select, List.head?_cons] at letter
    exact absurd letter (by decide)
  · refine ⟨j, joined, ?_⟩
    unfold Join.toSql Capabilities.tableReference
    rw [bare]
  · rw [letter] at other
    exact absurd other (by decide)

include regular wellFormed in
theorem tops_front_iff_top {n : Count} :
    (∃ line ∈ (ofQuery caps table q).front, Line.Tops n line) ↔
      (q.window.placement caps).top = some n :=
  tops_front_iff.trans (Line.tops_selectPart_iff regular wellFormed.projection q.exclude table)

/-! ### Statements that need no ordering -/

section Unneeded

variable {top : Option Count} {suffix : Option Text}
  (placed : q.window.placement caps = ⟨top, suffix, false⟩)
  (last : ∀ line ∈ suffix, ¬ Line.Orders line ∧ ∀ n, ¬ Line.Tops n line ∧ ¬ Line.Passes n line)

include placed

/-- A line stands in front of the ordering, or is the one that was asked for, or is the last. -/
theorem mem_lines_iff {line : Text} :
    line ∈ (ofQuery caps table q).lines ↔ line ∈ (ofQuery caps table q).front ∨
      (∃ key, q.order = some key ∧ Line.ofSortKey caps key = line) ∨ suffix = some line := by
  have lines : (ofQuery caps table q).lines = (ofQuery caps table q).front ++
      (q.order.map (Line.ofSortKey caps)).toList ++ suffix.toList := lines_ofQuery placed
  rw [lines, List.mem_append, List.mem_append, Option.mem_toList, Option.mem_toList, or_assoc,
    Option.map_eq_some_iff]

include last

theorem not_passes_of_mem_lines {line : Text} (h : line ∈ (ofQuery caps table q).lines)
    (m : Count) : ¬ Line.Passes m line := by
  rcases (mem_lines_iff placed).1 h with front | ⟨key, -, rfl⟩ | final
  · exact (not_of_mem_front front).2 m
  · exact (Line.orders_ofSortKey caps key).not_passes m
  · exact ((last line final).2 m).2

/-- The rows are ordered when that was asked for. -/
theorem orders_lines_iff :
    (∃ line ∈ (ofQuery caps table q).lines, Line.Orders line) ↔ q.order.isSome := by
  rw [Option.isSome_iff_exists]
  constructor
  · rintro ⟨line, mem, orders⟩
    rcases (mem_lines_iff placed).1 mem with front | ⟨key, given, -⟩ | final
    · exact absurd orders (not_of_mem_front front).1
    · exact ⟨key, given⟩
    · exact absurd orders (last line final).1
  · rintro ⟨key, given⟩
    exact ⟨_, (mem_lines_iff placed).2 (.inr (.inl ⟨key, given, rfl⟩)),
      Line.orders_ofSortKey caps key⟩

include regular

/-- No ordering is made up. -/
theorem unordered_not_mem_lines : Line.unordered ∉ (ofQuery caps table q).lines := by
  intro mem
  rcases (mem_lines_iff placed).1 mem with front | ⟨key, -, same⟩ | final
  · exact (not_of_mem_front front).1 Line.orders_unordered
  · exact Line.ofSortKey_ne_unordered regular key same
  · exact (last _ final).1 Line.orders_unordered

include wellFormed

/-- A limit stands in front of the select list when it was placed there. -/
theorem tops_lines_iff {n : Count} :
    (∃ line ∈ (ofQuery caps table q).lines, Line.Tops n line) ↔ top = some n := by
  have front : (∃ line ∈ (ofQuery caps table q).front, Line.Tops n line) ↔ top = some n := by
    rw [tops_front_iff_top regular wellFormed, placed]
  rw [← front]
  constructor
  · rintro ⟨line, mem, tops⟩
    rcases (mem_lines_iff placed).1 mem with front | ⟨key, -, rfl⟩ | final
    · exact ⟨line, front, tops⟩
    · exact absurd tops ((Line.orders_ofSortKey caps key).not_tops n)
    · exact absurd tops ((last line final).2 n).1
  · rintro ⟨line, front, tops⟩
    exact ⟨line, (mem_lines_iff placed).2 (.inl front), tops⟩

end Unneeded

/-! ### Statements that page -/

include regular wellFormed

/-- Where rows are passed over, the last two lines are an ordering and the line that does so. -/
theorem pagesByFetch_of_offset {m : Count} (offset : q.window.offset = some m)
    (nonzero : q.window.limit ≠ some 0) (placed : q.window.placement caps =
      ⟨none, some (Window.fetch q.window.limit m), true⟩) :
    PagesByFetch caps q.window q.order (ofQuery caps table q).lines := by
  have orders := Line.orders_getD caps q.order
  have lines : (ofQuery caps table q).lines = (ofQuery caps table q).front ++
      [(q.order.map (Line.ofSortKey caps)).getD Line.unordered,
        Window.fetch q.window.limit m] := by
    rw [lines_ofQuery placed, List.append_assoc]
    rfl
  have paging : ∀ line ∈ (ofQuery caps table q).lines, ∀ m', Line.Passes m' line →
      line = Window.fetch q.window.limit m := by
    intro line mem m' passes
    rw [lines, List.mem_append, List.mem_pair] at mem
    rcases mem with front | rfl | last
    · exact absurd passes ((not_of_mem_front front).2 m')
    · exact absurd passes (orders.not_passes m')
    · exact last
  have last : Window.fetch q.window.limit m ∈ (ofQuery caps table q).lines := by
    simp [lines]
  have passes : Line.Passes m (Window.fetch q.window.limit m) := Line.passes_fetch_iff.2 rfl
  constructor
  case passes =>
    refine fun m' => ⟨?_, ?_⟩
    · rintro ⟨line, mem, passes⟩
      rw [paging line mem m' passes, Line.passes_fetch_iff] at passes
      exact ⟨passes ▸ offset, nonzero⟩
    · rintro ⟨same, -⟩
      rw [offset, Option.some.injEq] at same
      exact ⟨_, last, same ▸ passes⟩
  case ordered =>
    intro line mem m' passes'
    rw [paging line mem m' passes']
    refine ⟨⟨_, lines, List.forall_mem_cons.2 ⟨fun orders => orders.not_passes m passes,
      fun line front => (not_of_mem_front front).1⟩⟩, fun line mem n tops => ?_⟩
    rw [lines, List.mem_append, List.mem_pair] at mem
    rcases mem with front | rfl | rfl
    · have limit := (tops_front_iff_top regular wellFormed).1 ⟨line, front, tops⟩
      rw [placed] at limit
      cases limit
    · exact orders.not_tops n tops
    · exact absurd (tops.head?.symm.trans passes.head?) (by decide)
  case fetches =>
    refine fun m' n => ⟨?_, ?_⟩
    · rintro ⟨line, mem, fetches⟩
      rw [paging line mem m' fetches.passes, Line.fetches_fetch_iff] at fetches
      obtain ⟨rfl, limit⟩ := fetches
      refine ⟨offset, limit, Nat.one_le_iff_ne_zero.2 fun zero => nonzero ?_⟩
      rw [limit, UInt64.toNat_inj.1 (zero.trans UInt64.toNat_zero.symm)]
    · rintro ⟨same, limit, -⟩
      rw [offset, Option.some.injEq] at same
      exact ⟨_, last, Line.fetches_fetch_iff.2 ⟨same.symm, limit⟩⟩
  case plain => exact fun none => absurd passes (none _ last m)

/-- Where no rows are passed over, the limit stands in front and no ordering is made up. -/
theorem pagesByFetch_of_top (nowhere : ∀ m, q.window.offset = some m → q.window.limit = some 0)
    (placed : q.window.placement caps = ⟨q.window.limit, none, false⟩) :
    PagesByFetch caps q.window q.order (ofQuery caps table q).lines := by
  have last : ∀ line ∈ (none : Option Text),
      ¬ Line.Orders line ∧ ∀ n, ¬ Line.Tops n line ∧ ¬ Line.Passes n line :=
    fun _ mem => by cases mem
  have none : ∀ line ∈ (ofQuery caps table q).lines, ∀ m, ¬ Line.Passes m line :=
    fun _ mem => not_passes_of_mem_lines placed last mem
  constructor
  case passes =>
    refine fun m => ⟨?_, ?_⟩
    · rintro ⟨line, mem, passes⟩
      exact absurd passes (none line mem m)
    · rintro ⟨offset, nonzero⟩
      exact absurd (nowhere m offset) nonzero
  case ordered => exact fun line mem m passes => absurd passes (none line mem m)
  case fetches =>
    refine fun m n => ⟨?_, ?_⟩
    · rintro ⟨line, mem, fetches⟩
      exact absurd fetches.passes (none line mem m)
    · rintro ⟨offset, limit, positive⟩
      rw [nowhere m offset, Option.some.injEq] at limit
      rw [← limit] at positive
      exact absurd positive (by decide)
  case plain =>
    exact fun _ => ⟨unordered_not_mem_lines regular placed last,
      fun _ => tops_lines_iff regular wellFormed placed last⟩

theorem pagesByFetch (topFetch : caps.window = .topFetch) (needed : caps.offsetNeedsOrder = true) :
    PagesByFetch caps q.window q.order (ofQuery caps table q).lines := by
  rcases q.window.placement_topFetch topFetch with ⟨m, offset, nonzero, placed⟩ | ⟨nowhere, placed⟩
  · rw [needed] at placed
    exact pagesByFetch_of_offset regular wellFormed offset nonzero placed
  · exact pagesByFetch_of_top regular wellFormed nowhere placed

/-- In the other dialects a window is the last line, if it is a line at all. -/
theorem pagesByLimit (limitOffset : caps.window = .limitOffset) (bare : caps.lockHint = none) :
    PagesByLimit caps table q.joins q.order (ofQuery caps table q).lines := by
  have placed : q.window.placement caps = ⟨none, q.window.limitOffset? caps, false⟩ := by
    rw [Window.placement, limitOffset]
  have last : ∀ line ∈ q.window.limitOffset? caps,
      ¬ Line.Orders line ∧ ∀ n, ¬ Line.Tops n line ∧ ¬ Line.Passes n line :=
    fun _ => Line.not_of_limitOffset?
  constructor
  case plain =>
    refine fun line mem n => ⟨fun tops => ?_, not_passes_of_mem_lines placed last mem n⟩
    cases (tops_lines_iff regular wellFormed placed last).1 ⟨line, mem, tops⟩
  case selection => exact ⟨_, head?_lines_of_bare bare (by rw [placed])⟩
  case joined =>
    intro line mem keyword
    have letter : line.head? = some 'J' := by
      obtain ⟨rest, rfl⟩ := keyword
      rfl
    rcases (mem_lines_iff placed).1 mem with front | ⟨key, -, rfl⟩ | final
    · exact exists_of_mem_front_of_bare bare front letter
    · exact absurd (letter.symm.trans (Line.orders_ofSortKey caps key).head?) (by decide)
    · have first := Line.head?_limitOffset? final
      rw [letter] at first
      exact absurd first (by decide)
  case requested => exact unordered_not_mem_lines regular placed last
  case ordered => exact orders_lines_iff placed last

end Lines

end Statement

namespace Dialect

/-- Limit, offset and ordering of a statement agree, whatever was given for them. SQL Server passes
over rows behind an ordering only, and makes one up where none was asked for; the other dialects
have no use for that, nor for a limit in front of the select list or anything behind a table. -/
theorem compile_pages {dialect : Dialect} {table : Text} {p : Params} {c : Compiled}
    (h : dialect.compile table p = .ok c) :
    ∃ q, Query.ofParams p = .ok q ∧
      let lines := (Statement.ofQuery dialect.capabilities table q).lines
      c.sql = ['\n'].intercalate lines ∧
        (dialect = mssql → PagesByFetch dialect.capabilities
          ⟨p.count? Directive.limit.key, p.count? Directive.offset.key⟩ p.sortKey? lines) ∧
        (dialect ≠ mssql →
          PagesByLimit dialect.capabilities table q.joins p.sortKey? lines) := by
  obtain ⟨-, q, read, rfl⟩ := compile_eq_ok_iff.1 h
  have wellFormed := Query.wellFormed_of_ofParams read
  refine ⟨q, read, ?_, ?_, ?_⟩
  · rw [Statement.compiled_ofQuery dialect.regular wellFormed, Fragment.sql_join]
    rfl
  · rintro rfl
    rw [← Query.window_of_ofParams read, ← Query.order_of_ofParams read]
    exact Statement.pagesByFetch mssql.regular wellFormed rfl rfl
  · intro other
    rw [← Query.order_of_ofParams read]
    have table : dialect.capabilities.window = .limitOffset ∧
        dialect.capabilities.lockHint = none := by
      cases dialect with
      | mssql => exact absurd rfl other
      | _ => exact ⟨rfl, rfl⟩
    exact Statement.pagesByLimit dialect.regular wellFormed table.1 table.2

/-- An offset without a limit, a sort column that is blank, and an expression that starts like a
limit. -/
theorem compile_pages_unordered :
    let p := Params.ofPairs [("orderBy", "a"), ("select", "TOP AS b"), ("offset", "05"),
      ("orderBy", " ")]
    let c : Compiled :=
      ⟨"SELECT TOP AS b FROM [t] WITH (NOLOCK)\nORDER BY (SELECT NULL)\nOFFSET 5 ROWS", []⟩
    mssql.compile "t" p = .ok c ∧ ∃ q, Query.ofParams p = .ok q ∧
      PagesByFetch mssql.capabilities ⟨none, some 5⟩ none
        (Statement.ofQuery mssql.capabilities "t" q).lines := by
  intro p c
  have compiled : mssql.compile "t" p = .ok c := by decide +kernel
  obtain ⟨q, read, -, pages, -⟩ := compile_pages compiled
  have limit : p.count? Directive.limit.key = none := by decide +kernel
  have offset : p.count? Directive.offset.key = some 5 := by decide +kernel
  have order : p.sortKey? = none := by decide +kernel
  rw [limit, offset, order] at pages
  exact ⟨compiled, q, read, pages rfl⟩

end Dialect

end FilterSql
