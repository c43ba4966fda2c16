/-
# FilterSql.Proofs.Statement.Characters -- the characters of a statement

The fixed words of a statement, its names and its numbers are written in few characters, and only a
select expression may bring others along. So a choice of characters that covers the words of a
dialect covers every text of a statement once it covers the expressions that are shown, and every
line but the first without regard to them: `within_of_mem_sections`, `eq_or_within_of_mem_sections`.

With the characters that expressions may have this says that a question mark stands in no text of a
statement: in the whole, question marks are holes and nothing else.
-/

import FilterSql.Proofs.Statement.Sections

namespace FilterSql

/-! ## Choices of characters -/

/-- May the character stand in a fixed word, in a name or in a number? -/
def isPlainChar (c : Char) : Bool :=
  isNameChar c || [' ', '.', '*', ',', '(', ')', '=', '<', '>', '-'].contains c

theorem isPlainChar_of_isNameChar {c : Char} (h : isNameChar c = true) : isPlainChar c = true := by
  simp [isPlainChar, h]

/-- A plain character may stand in an expression or in a comparison. -/
theorem isSqlChar_of_isPlainChar {c : Char} (h : isPlainChar c = true) : isSqlChar c = true := by
  simp only [isPlainChar, Bool.or_eq_true, List.contains_iff_mem] at h
  rcases h with name | sign
  · exact isSqlChar_of_isExpressionChar (isExpressionChar_of_isNameChar name)
  · have signs : [' ', '.', '*', ',', '(', ')', '=', '<', '>', '-'].all isSqlChar = true := rfl
    exact List.all_eq_true.1 signs c sign

/-- The choice has every character in which the words of a dialect are written. -/
structure Capabilities.CoveredBy (caps : Capabilities) (keep : Char → Bool) : Prop where
  /-- The plain characters. -/
  plain : ∀ c, isPlainChar c = true → keep c = true
  /-- The mark that opens a quoted name. -/
  openQuote : keep caps.openQuote = true
  /-- The mark that closes one. -/
  closeQuote : keep caps.closeQuote = true
  /-- The characters of what stands behind a table. -/
  lockHint : ∀ hint ∈ caps.lockHint, ∀ c ∈ hint, keep c = true
  /-- The characters of the limit for all rows. -/
  unboundedLimit : ∀ limit ∈ caps.unboundedLimit, ∀ c ∈ limit, keep c = true

/-- The known dialects have four quotation marks besides the plain characters. -/
theorem Dialect.coveredBy (dialect : Dialect) {keep : Char → Bool}
    (plain : ∀ c, isPlainChar c = true → keep c = true)
    (marks : ['"', '\x60', '[', ']'].all keep = true) :
    dialect.capabilities.CoveredBy keep := by
  have mark := List.all_eq_true.1 marks
  have text : ∀ s : Text, s.all isPlainChar = true → ∀ c ∈ s, keep c = true :=
    fun s h c hc => plain c (List.all_eq_true.1 h c hc)
  cases dialect with
  | postgres => exact ⟨plain, mark _ (by decide), mark _ (by decide), nofun, nofun⟩
  | mysql =>
    refine ⟨plain, mark _ (by decide), mark _ (by decide), nofun, fun limit h => ?_⟩
    cases h
    exact text _ (by decide)
  | sqlite =>
    refine ⟨plain, mark _ (by decide), mark _ (by decide), nofun, fun limit h => ?_⟩
    cases h
    exact text _ (by decide)
  | mssql =>
    refine ⟨plain, mark _ (by decide), mark _ (by decide), fun hint h => ?_, nofun⟩
    cases h
    exact text _ (by decide)

/-! ## Expressions that are shown -/

/-- The text of an entry that is an expression. -/
def Projection.expression? : Projection → Option Text
  | expression text => some text
  | _ => none

/-- The expressions that a statement shows: those of the select list, and none where a wildcard
stands for the whole list. -/
def Query.expressions (q : Query) : List Text :=
  if q.exclude ∧ .wildcard ∈ q.projection then []
  else q.projection.filterMap Projection.expression?

theorem Query.mem_expressions_iff {q : Query} {text : Text} :
    text ∈ q.expressions ↔
      ¬ (q.exclude = true ∧ .wildcard ∈ q.projection) ∧ .expression text ∈ q.projection := by
  have entry : ∀ p : Projection, p.expression? = some text ↔ p = .expression text := by
    intro p
    cases p <;> simp [Projection.expression?]
  unfold expressions
  split
  · next whole => simp [whole]
  · next list => simp [list, entry]

/-! ## Texts -/

/-- Every character of the text is among the chosen. -/
def Text.Within (keep : Char → Bool) (s : Text) : Prop := ∀ c ∈ s, keep c = true

/-- Every text of the fragment is written in the chosen characters. -/
def Fragment.Within (keep : Char → Bool) (f : Fragment) : Prop :=
  ∀ s, Piece.text s ∈ f → Text.Within keep s

section Within

variable {caps : Capabilities} {keep : Char → Bool} (covered : caps.CoveredBy keep)

namespace Text

theorem Within.append {s t : Text} (hs : Within keep s) (ht : Within keep t) :
    Within keep (s ++ t) :=
  List.forall_mem_append.2 ⟨hs, ht⟩

theorem within_intercalate {separator : Text} {parts : List Text}
    (hs : Within keep separator) (h : ∀ part ∈ parts, Within keep part) :
    Within keep (separator.intercalate parts) := by
  intro c hc
  rcases mem_or_mem_of_mem_intercalate hc with hc | ⟨part, hp, hc⟩
  · exact hs c hc
  · exact h part hp c hc

include covered

/-- For a fixed text the hypothesis is a computation. -/
theorem within_of_all {s : Text} (h : s.all isPlainChar = true) : Within keep s :=
  fun c hc => covered.plain c (List.all_eq_true.1 h c hc)

theorem within_of_isIdentifier {s : Text} (h : isIdentifier s = true) : Within keep s := by
  intro c hc
  rcases isNameChar_of_isIdentifier h c hc with name | rfl
  · exact covered.plain c (isPlainChar_of_isNameChar name)
  · exact covered.plain '.' rfl

theorem within_toText (n : Count) : Within keep n.toText := by
  intro c hc
  have digit := Count.isDigit_of_mem_toText hc
  have name : isNameChar c = true := by simp [isNameChar, Char.isAlphanum, digit]
  exact covered.plain c (isPlainChar_of_isNameChar name)

/-- Quoting adds quotation marks only. -/
theorem within_quote {name : Text} (h : isIdentifier name = true) :
    Within keep (caps.quote name) := by
  refine within_intercalate (within_of_all covered rfl) fun part hp => ?_
  obtain ⟨segment, hs, rfl⟩ := List.mem_map.1 hp
  intro c hc
  simp only [Capabilities.quoteSegment, List.mem_cons, List.mem_append, List.mem_flatMap,
    List.not_mem_nil, or_false] at hc
  rcases hc with rfl | ⟨d, hd, hc⟩ | rfl
  · exact covered.openQuote
  · split at hc
    · next escaped =>
      simp only [List.mem_cons, List.not_mem_nil, or_false, or_self] at hc
      rw [hc, escaped]
      exact covered.closeQuote
    · rw [List.mem_singleton.1 hc]
      exact within_of_isIdentifier covered h d (mem_of_mem_splitOn hs hd)
  · exact covered.closeQuote

theorem within_tableReference {table : Text} (h : isIdentifier table = true) :
    Within keep (caps.tableReference table) := by
  unfold Capabilities.tableReference
  split
  · next hint eq =>
    have space : Within keep [' '] := within_of_all covered rfl
    exact (within_quote covered h).append (space.append (covered.lockHint hint eq))
  · exact within_quote covered h

end Text

/-! ## Fragments -/

namespace Fragment

theorem within_raw {s : Text} (h : Text.Within keep s) : Within keep (raw s) := by
  intro t ht
  cases List.mem_singleton.1 ht
  exact h

theorem within_hole (value : Text) : Within keep (hole value) := by
  intro t ht
  cases List.mem_singleton.1 ht

theorem Within.append {f g : Fragment} (hf : Within keep f) (hg : Within keep g) :
    Within keep (f ++ g) := by
  intro t ht
  rcases List.mem_append.1 ht with ht | ht
  · exact hf t ht
  · exact hg t ht

theorem within_join {separator : Text} {fragments : List Fragment}
    (hs : Text.Within keep separator) (h : ∀ f ∈ fragments, Within keep f) :
    Within keep (join separator fragments) := by
  induction fragments with
  | nil => exact fun t ht => by cases ht
  | cons f rest ih =>
    have hrest := ih fun g hg => h g (List.mem_cons_of_mem f hg)
    cases rest with
    | nil =>
      rw [join, List.intercalate_singleton]
      exact h f (by simp)
    | cons g rest =>
      rw [join_cons_cons]
      exact ((h f (by simp)).append (within_raw hs)).append hrest

/-- A character that is not among the chosen stands in no text. -/
theorem Within.not_mem {f : Fragment} {c : Char} (h : Within keep f) (other : keep c = false) :
    ∀ s, Piece.text s ∈ f → c ∉ s := by
  intro s hs hc
  rw [h s hs c hc] at other
  cases other

/-- In the text of a fragment the holes are question marks. -/
theorem Within.sql {f : Fragment} (h : Within keep f) (mark : keep '?' = true) :
    Text.Within keep f.sql := by
  intro c hc
  obtain ⟨piece, hp, hc⟩ := List.mem_flatMap.1 hc
  cases piece with
  | text s => exact h s hp c hc
  | hole value =>
    rw [List.mem_singleton.1 (show c ∈ ['?'] from hc)]
    exact mark

end Fragment

/-! ## The parts of a statement -/

include covered

theorem Predicate.within_fragment {p : Predicate} (h : p.WellFormed) :
    (p.fragment caps).Within keep := by
  have column : Text.Within keep (caps.quote p.column) := Text.within_quote covered h.column
  unfold fragment
  dsimp only
  split
  · refine ((Fragment.within_raw (column.append ?_)).append
      (Fragment.within_join ?_ fun f hf => ?_)).append (Fragment.within_raw ?_)
    · exact Text.within_of_all covered rfl
    · exact Text.within_of_all covered rfl
    · obtain ⟨item, -, rfl⟩ := List.mem_map.1 hf
      exact Fragment.within_hole item
    · exact Text.within_of_all covered rfl
  · split
    · refine ((Fragment.within_raw ((Text.Within.append ?_ column).append ?_)).append
        (Fragment.within_hole _)).append (Fragment.within_raw ?_)
      · exact Text.within_of_all covered rfl
      · exact Text.within_of_all covered rfl
      · exact Text.within_of_all covered rfl
    · have symbol : Text.Within keep p.operator.symbol := by
        refine Text.within_of_all covered ?_
        cases p.operator <;> decide
      refine (Fragment.within_raw (((column.append ?_).append symbol).append ?_)).append
        (Fragment.within_hole _)
      · exact Text.within_of_all covered rfl
      · exact Text.within_of_all covered rfl

theorem Condition.within_fragment {c : Condition} (h : c.WellFormed) :
    (c.fragment caps).Within keep := by
  cases h with
  | predicate hp => exact Predicate.within_fragment covered hp
  | @group g _ members =>
    refine ((Fragment.within_raw ?_).append (Fragment.within_join ?_ fun f hf => ?_)).append
      (Fragment.within_raw ?_)
    · exact Text.within_of_all covered rfl
    · refine Text.within_of_all covered ?_
      cases g.combinator <;> decide
    · obtain ⟨p, hp, rfl⟩ := List.mem_map.1 hf
      exact Predicate.within_fragment covered (members p hp)
    · exact Text.within_of_all covered rfl

theorem within_conditionClause? {keyword : Text} (fixed : Text.Within keep (keyword ++ [' ']))
    {conditions : List Condition} (h : ∀ c ∈ conditions, c.WellFormed) {f : Fragment}
    (hf : conditionClause? caps keyword conditions = some f) : f.Within keep := by
  unfold conditionClause? at hf
  split at hf
  · cases hf
  · cases hf
    refine (Fragment.within_raw fixed).append (Fragment.within_join ?_ fun f hf => ?_)
    · exact Text.within_of_all covered rfl
    · obtain ⟨c, hc, rfl⟩ := List.mem_map.1 hf
      exact Condition.within_fragment covered (h c hc)

namespace Text

theorem within_selectList {q : Query} (h : q.WellFormed)
    (shown : ∀ text ∈ q.expressions, Within keep text) :
    Within keep (selectList caps q.projection q.exclude) := by
  unfold selectList
  split
  · exact within_of_all covered rfl
  · next list =>
    refine within_intercalate (within_of_all covered rfl) fun part hp => ?_
    obtain ⟨entry, he, rfl⟩ := List.mem_map.1 hp
    cases entry with
    | wildcard =>
      show Within keep "*".toList
      exact within_of_all covered rfl
    | column name => exact within_quote covered (h.projection _ he)
    | expression text =>
      exact shown text (Query.mem_expressions_iff.2 ⟨fun whole => list (.inr whole), he⟩)

theorem within_join {j : Join} (h : j.WellFormed) : Within keep (j.toSql caps) := by
  have keyword : Within keep "JOIN ".toList := within_of_all covered rfl
  have table := within_tableReference covered h.table
  refine ((keyword.append table).append (within_of_all covered rfl)).append ?_
  refine within_intercalate (within_of_all covered rfl) fun operand ho => ?_
  exact within_of_isIdentifier covered (h.operands operand ho)

theorem within_groupingLine? {columns : List Text}
    (h : ∀ column ∈ columns, isIdentifier column = true) {line : Text}
    (hl : groupingLine? caps columns = some line) : Within keep line := by
  unfold groupingLine? at hl
  split at hl
  · cases hl
  · cases hl
    refine Within.append (within_of_all covered rfl) ?_
    refine within_intercalate (within_of_all covered rfl) fun part hp => ?_
    obtain ⟨column, hc, rfl⟩ := List.mem_map.1 hp
    exact within_quote covered (h column hc)

theorem within_orderingLine? {order : Option SortKey}
    (h : ∀ key ∈ order, isIdentifier key.column = true) {needed : Bool} {line : Text}
    (hl : orderingLine? caps order needed = some line) : Within keep line := by
  unfold orderingLine? at hl
  split at hl
  · next key =>
    cases hl
    have keyword : Within keep key.direction.keyword := by
      refine within_of_all covered ?_
      cases key.direction <;> decide
    have column : Within keep (caps.quote key.column) := within_quote covered (h key rfl)
    have before : Within keep "ORDER BY ".toList := within_of_all covered rfl
    exact ((before.append column).append (within_of_all covered rfl)).append keyword
  · split at hl
    · cases hl
      exact within_of_all covered rfl
    · cases hl

theorem within_limitOffset? {w : Window} {line : Text} (hl : w.limitOffset? caps = some line) :
    Within keep line := by
  have limit : Within keep "LIMIT ".toList := within_of_all covered rfl
  have offset : Within keep " OFFSET ".toList := within_of_all covered rfl
  have count := within_toText covered
  rcases Window.limitOffset?_cases hl with
    ⟨n, rfl⟩ | ⟨n, m, rfl⟩ | ⟨m, -, rfl⟩ | ⟨all, m, unbounded, rfl⟩
  · exact limit.append (count n)
  · exact ((limit.append (count n)).append offset).append (count m)
  · exact Within.append (within_of_all covered rfl) (count m)
  · have number : Within keep all := covered.unboundedLimit all unbounded
    exact ((limit.append number).append offset).append (count m)

theorem within_fetch (limit : Option Count) (m : Count) :
    Within keep (Window.fetch limit m) := by
  have offset : Within keep "OFFSET ".toList := within_of_all covered rfl
  have count := within_toText covered
  cases limit with
  | none =>
    rw [Window.fetch_none]
    exact (offset.append (count m)).append (within_of_all covered rfl)
  | some n =>
    have fetch : Within keep " ROWS FETCH NEXT ".toList := within_of_all covered rfl
    have only : Within keep " ROWS ONLY".toList := within_of_all covered rfl
    rw [Window.fetch_some]
    exact (((offset.append (count m)).append fetch).append (count n)).append only

theorem within_suffix {w : Window} {line : Text}
    (hl : (w.placement caps).suffix = some line) : Within keep line := by
  rcases Window.suffix_cases hl with ⟨-, hl⟩ | ⟨-, m, rfl⟩
  · exact within_limitOffset? covered hl
  · exact within_fetch covered w.limit m

end Text

/-! ## Sections -/

namespace Statement

variable {table : Text} {q : Query}

/-- Every section but the first is written in the chosen characters, whatever is selected. -/
theorem eq_or_within_of_mem_sections (h : q.WellFormed) {line : Fragment}
    (hl : line ∈ (ofQuery caps table q).sections) :
    line = Fragment.raw (ofQuery caps table q).selection ∨ line.Within keep := by
  simp only [sections, ofQuery, List.mem_append, List.mem_singleton, Option.mem_toList,
    Option.map_eq_some_iff, List.mem_map] at hl
  rcases hl with (((((first | ⟨text, ⟨j, hj, rfl⟩, rfl⟩) | hl) | ⟨text, hl, rfl⟩) | hl) |
    ⟨text, hl, rfl⟩) | ⟨text, hl, rfl⟩
  · exact .inl first
  · exact .inr (Fragment.within_raw (Text.within_join covered (h.joins j hj)))
  · exact .inr (within_conditionClause? covered (Text.within_of_all covered rfl) h.conditions hl)
  · exact .inr (Fragment.within_raw (Text.within_groupingLine? covered h.grouping hl))
  · exact .inr (within_conditionClause? covered (Text.within_of_all covered rfl) h.having hl)
  · exact .inr (Fragment.within_raw (Text.within_orderingLine? covered h.order hl))
  · exact .inr (Fragment.within_raw (Text.within_suffix covered hl))

/-- What stands around the select list in the first section is written in the chosen characters. -/
theorem exists_selection_eq_append (valid : isIdentifier table = true) (q : Query) :
    ∃ front back : Text,
      (ofQuery caps table q).selection = front ++ selectList caps q.projection q.exclude ++ back ∧
        Text.Within keep front ∧ Text.Within keep back := by
  have fixed : ∀ {s : Text}, s.all isPlainChar = true → Text.Within keep s :=
    Text.within_of_all covered
  have source : Text.Within keep (" ".toList ++ fromPart caps table) :=
    Text.Within.append (fixed rfl)
      (Text.Within.append (fixed rfl) (Text.within_tableReference covered valid))
  unfold ofQuery selectPart
  dsimp only
  cases (q.window.placement caps).top with
  | none =>
    refine ⟨"SELECT ".toList, _, ?_, fixed rfl, source⟩
    simp only [List.append_assoc, List.nil_append]
  | some n =>
    refine ⟨"SELECT ".toList ++ ("TOP ".toList ++ n.toText ++ " ".toList), _, ?_, ?_, source⟩
    · simp only [List.append_assoc]
    · exact Text.Within.append (fixed rfl)
        ((Text.Within.append (fixed rfl) (Text.within_toText covered n)).append (fixed rfl))

/-- Every section is written in the chosen characters when the expressions that are shown are. -/
theorem within_of_mem_sections (valid : isIdentifier table = true) (h : q.WellFormed)
    (shown : ∀ text ∈ q.expressions, Text.Within keep text) {line : Fragment}
    (hl : line ∈ (ofQuery caps table q).sections) : line.Within keep := by
  rcases eq_or_within_of_mem_sections covered h hl with rfl | within
  · obtain ⟨front, back, selection, before, behind⟩ := exists_selection_eq_append covered valid q
    rw [selection]
    exact Fragment.within_raw
      ((before.append (Text.within_selectList covered h shown)).append behind)
  · exact within

end Statement

end Within

/-! ## The characters of SQL -/

/-- May the character stand in the texts of a statement, holes apart? -/
def Capabilities.mayWrite (caps : Capabilities) (c : Char) : Bool :=
  isSqlChar c || c = caps.openQuote || c = caps.closeQuote

theorem Capabilities.Regular.mayWrite_placeholder {caps : Capabilities} (h : caps.Regular) :
    caps.mayWrite '?' = false := by
  have fixed : isSqlChar '?' = false := by decide
  simp [mayWrite, fixed, h.marks.1.symm, h.marks.2.symm]

theorem Capabilities.mayWrite_of_isSqlChar (caps : Capabilities) {c : Char}
    (h : isSqlChar c = true) : caps.mayWrite c = true := by
  simp [mayWrite, h]

theorem Capabilities.Regular.coveredBy_mayWrite {caps : Capabilities} (h : caps.Regular) :
    caps.CoveredBy caps.mayWrite where
  plain _ plain := caps.mayWrite_of_isSqlChar (isSqlChar_of_isPlainChar plain)
  openQuote := by simp [mayWrite]
  closeQuote := by simp [mayWrite]
  lockHint hint given c hc :=
    caps.mayWrite_of_isSqlChar (List.all_eq_true.1 (h.lockHint hint given).2 c hc)
  unboundedLimit limit given c hc :=
    caps.mayWrite_of_isSqlChar (List.all_eq_true.1 (h.unboundedLimit limit given) c hc)

/-- Every character of the text may stand in a statement. -/
def Text.Written (caps : Capabilities) (s : Text) : Prop := ∀ c ∈ s, caps.mayWrite c = true

/-- Every text of the fragment is written in the characters of a statement. -/
def Fragment.Written (caps : Capabilities) (f : Fragment) : Prop :=
  ∀ s, Piece.text s ∈ f → Text.Written caps s

/-- For a fixed text the hypothesis is a computation. -/
theorem Text.written_of_all {caps : Capabilities} {s : Text} (h : s.all isSqlChar = true) :
    Written caps s :=
  fun c hc => caps.mayWrite_of_isSqlChar (List.all_eq_true.1 h c hc)

theorem Fragment.written_join {caps : Capabilities} {separator : Text} {fragments : List Fragment}
    (hs : Text.Written caps separator) (h : ∀ f ∈ fragments, Written caps f) :
    Written caps (join separator fragments) :=
  within_join hs h

/-- Every section of the statement of a well-formed query is written in the characters of a
statement. -/
theorem Statement.written_of_mem_sections {caps : Capabilities} (regular : caps.Regular)
    {table : Text} (valid : isIdentifier table = true) {q : Query} (h : q.WellFormed) :
    ∀ line ∈ (ofQuery caps table q).sections, line.Written caps := by
  intro line hl
  refine within_of_mem_sections regular.coveredBy_mayWrite valid h (fun text shown c hc => ?_) hl
  obtain ⟨accepted, -⟩ := h.projection _ (Query.mem_expressions_iff.1 shown).2
  exact caps.mayWrite_of_isSqlChar
    (isSqlChar_of_isExpressionChar (isExpressionChar_of_isExpression accepted c hc))

end FilterSql
