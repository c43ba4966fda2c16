/-
# FilterSql.Proofs.Statement.Sections -- the sections of a statement and how they are put together

The writer drops sections without text and trims the whole. For a well-formed query neither does
anything: every section has text and ends with a character that is not blank, and the first one
starts with `SELECT`. So a statement is exactly its sections with a line break between neighbours
(`compiled_ofQuery`), which is what all results about statements start from.
-/

import FilterSql.Compile
import FilterSql.Proofs.Query.WellFormed

namespace FilterSql

/-! ## Regular capability tables -/

/-- Does the character stand in expressions, comparison signs or fixed words of SQL? -/
def isSqlChar (c : Char) : Bool := isExpressionChar c || ['=', '<', '>', '-'].contains c

/-- What the tables of all dialects have in common. Quotation marks stand nowhere else in SQL, so no
name has to be escaped, and the fixed texts of a table bring no placeholder along. -/
structure Capabilities.Regular (caps : Capabilities) : Prop where
  /-- The opening mark stands nowhere else. -/
  openQuote : isSqlChar caps.openQuote = false
  /-- Neither does the closing mark. -/
  closeQuote : isSqlChar caps.closeQuote = false
  /-- Neither of the two is a placeholder. -/
  marks : caps.openQuote ≠ '?' ∧ caps.closeQuote ≠ '?'
  /-- What stands behind a table ends solid. -/
  lockHint : ∀ hint ∈ caps.lockHint, Text.EndsSolid hint ∧ hint.all isSqlChar = true
  /-- The limit for all rows is a number. -/
  unboundedLimit : ∀ limit ∈ caps.unboundedLimit, limit.all isSqlChar = true

theorem Dialect.regular (dialect : Dialect) : dialect.capabilities.Regular := by
  cases dialect with
  | postgres => exact ⟨by decide, by decide, by decide, nofun, nofun⟩
  | mysql =>
    refine ⟨by decide, by decide, by decide, nofun, fun limit h => ?_⟩
    cases h
    decide
  | sqlite =>
    refine ⟨by decide, by decide, by decide, nofun, fun limit h => ?_⟩
    cases h
    decide
  | mssql =>
    refine ⟨by decide, by decide, by decide, fun hint h => ?_, nofun⟩
    cases h
    exact ⟨⟨')', rfl, rfl⟩, by decide⟩

theorem isSqlChar_of_isExpressionChar {c : Char} (h : isExpressionChar c = true) :
    isSqlChar c = true := by
  simp [isSqlChar, h]

namespace Capabilities.Regular

variable {caps : Capabilities}

theorem closeQuote_solid (h : caps.Regular) : Text.isBlank caps.closeQuote = false := by
  cases blank : Text.isBlank caps.closeQuote with
  | false => rfl
  | true =>
    have char := isSqlChar_of_isExpressionChar (isExpressionChar_of_isBlank blank)
    rw [h.closeQuote] at char
    cases char

/-- A character of SQL is no opening mark. -/
theorem ne_openQuote (h : caps.Regular) {c : Char} (hc : isSqlChar c = true) :
    c ≠ caps.openQuote := by
  rintro rfl
  rw [h.openQuote] at hc
  cases hc

/-- Neither is it a closing mark. -/
theorem ne_closeQuote (h : caps.Regular) {c : Char} (hc : isSqlChar c = true) :
    c ≠ caps.closeQuote := by
  rintro rfl
  rw [h.closeQuote] at hc
  cases hc

theorem closeQuote_not_mem_of_isName (h : caps.Regular) {name : Text}
    (hn : isName name = true) : caps.closeQuote ∉ name := by
  intro mem
  have char := isNameChar_of_isName hn _ mem
  exact h.ne_closeQuote (isSqlChar_of_isExpressionChar (isExpressionChar_of_isNameChar char)) rfl

/-- The closing mark is in no name, so a name is quoted without being altered. -/
theorem quoteSegment_of_isName (h : caps.Regular) {name : Text} (hn : isName name = true) :
    caps.quoteSegment name = caps.openQuote :: (name ++ [caps.closeQuote]) := by
  have unaltered : name.flatMap (fun c => if c = caps.closeQuote then [c, c] else [c]) = name := by
    have each : ∀ c ∈ name, (if c = caps.closeQuote then [c, c] else [c]) = [c] := by
      intro c hc
      refine if_neg fun same => h.closeQuote_not_mem_of_isName hn ?_
      exact same ▸ hc
    rw [List.flatMap_congr each]
    exact List.flatMap_singleton' name
  rw [Capabilities.quoteSegment, unaltered]

/-- A quoted identifier is its names, each quoted, with dots between them. -/
theorem exists_quote_of_isIdentifier (h : caps.Regular) {s : Text} (hs : isIdentifier s = true) :
    ∃ names : List Text, names ≠ [] ∧ (∀ name ∈ names, isName name = true) ∧
      s = ['.'].intercalate names ∧
      caps.quote s = ['.'].intercalate
        (names.map fun name => caps.openQuote :: (name ++ [caps.closeQuote])) := by
  have all := List.all_eq_true.1 hs
  refine ⟨s.splitOn '.', List.splitOn_ne_nil _ _, all, (List.intercalate_splitOn '.').symm, ?_⟩
  rw [Capabilities.quote, List.map_congr_left fun name hn => h.quoteSegment_of_isName (all name hn)]

end Capabilities.Regular

/-! ## The ends of the parts -/

namespace Text

/-- The last character decides whether a text ends solid. -/
theorem endsSolid_concat {c : Char} (front : Text) (h : isBlank c = false) :
    EndsSolid (front ++ [c]) :=
  EndsSolid.append front ⟨c, rfl, h⟩

theorem endsSolid_of_isIdentifier {s : Text} (h : isIdentifier s = true) : EndsSolid s := by
  have ne : s ≠ [] := by
    rintro rfl
    cases h
  refine ⟨s.getLast ne, List.getLast?_eq_some_getLast ne, ?_⟩
  rcases isNameChar_of_isIdentifier h _ (List.getLast_mem ne) with name | dot
  · exact isBlank_eq_false_of_isNameChar name
  · rw [dot]
    decide

theorem endsSolid_toText (n : Count) : EndsSolid n.toText := by
  have ne : n.toText ≠ [] := Nat.toDigits_ne_nil
  refine ⟨n.toText.getLast ne, List.getLast?_eq_some_getLast ne, ?_⟩
  have digit := Count.isDigit_of_mem_toText (List.getLast_mem ne)
  exact isBlank_eq_false_of_isNameChar (by simp [isNameChar, Char.isAlphanum, digit])

end Text

open Text (EndsSolid)

section Quoted

variable {caps : Capabilities} (regular : caps.Regular)

include regular

theorem Capabilities.endsSolid_quote (name : Text) : EndsSolid (caps.quote name) := by
  refine Text.endsSolid_intercalate (by simp) fun part hp => ?_
  obtain ⟨segment, -, rfl⟩ := List.mem_map.1 hp
  exact (Text.endsSolid_concat _ regular.closeQuote_solid).cons _

theorem Capabilities.endsSolid_tableReference (table : Text) :
    EndsSolid (caps.tableReference table) := by
  unfold tableReference
  split
  · next hint h => exact ((regular.lockHint hint h).1.cons ' ').append _
  · exact endsSolid_quote regular table

theorem endsSolid_groupingLine? {columns : List Text} {line : Text}
    (h : groupingLine? caps columns = some line) : EndsSolid line := by
  unfold groupingLine? at h
  split at h
  · cases h
  · next ne =>
    cases h
    refine (Text.endsSolid_intercalate (by simpa using ne) fun part hp => ?_).append _
    obtain ⟨column, -, rfl⟩ := List.mem_map.1 hp
    exact Capabilities.endsSolid_quote regular column

end Quoted

variable {caps : Capabilities}

theorem Join.endsSolid_toSql {j : Join} (h : j.WellFormed) : EndsSolid (j.toSql caps) := by
  have ne : j.operands ≠ [] := by
    intro empty
    have two := h.two
    rw [empty, List.length_nil] at two
    omega
  exact (Text.endsSolid_intercalate ne fun operand ho =>
    Text.endsSolid_of_isIdentifier (h.operands operand ho)).append _

theorem endsSolid_orderingLine? {order : Option SortKey} {needed : Bool} {line : Text}
    (h : orderingLine? caps order needed = some line) : EndsSolid line := by
  unfold orderingLine? at h
  split at h
  · next key =>
    cases h
    have keyword : EndsSolid key.direction.keyword := by
      cases key.direction with
      | asc => exact ⟨'C', rfl, rfl⟩
      | desc => exact ⟨'C', rfl, rfl⟩
    exact keyword.append _
  · split at h
    · cases h
      exact EndsSolid.append _ ⟨')', rfl, rfl⟩
    · cases h

theorem Predicate.endsSolid_fragment (caps : Capabilities) (p : Predicate) :
    EndsSolid (p.fragment caps).sql := by
  unfold fragment
  dsimp only
  split
  · rw [Fragment.sql_append, Fragment.sql_raw]
    exact EndsSolid.append _ ⟨')', rfl, rfl⟩
  · split
    · rw [Fragment.sql_append, Fragment.sql_raw]
      exact EndsSolid.append _ ⟨')', rfl, rfl⟩
    · rw [Fragment.sql_append, Fragment.sql_hole]
      exact EndsSolid.append _ ⟨'?', rfl, rfl⟩

theorem Condition.endsSolid_fragment (caps : Capabilities) (c : Condition) :
    EndsSolid (c.fragment caps).sql := by
  cases c with
  | predicate p => exact p.endsSolid_fragment caps
  | group g =>
    rw [fragment, Group.fragment, Fragment.sql_append, Fragment.sql_raw]
    exact EndsSolid.append _ ⟨')', rfl, rfl⟩

theorem endsSolid_conditionClause? {keyword : Text} {conditions : List Condition} {f : Fragment}
    (h : conditionClause? caps keyword conditions = some f) : EndsSolid f.sql := by
  unfold conditionClause? at h
  split at h
  · cases h
  · next ne =>
    cases h
    rw [Fragment.sql_append, Fragment.sql_join]
    refine (Text.endsSolid_intercalate (by simpa using ne) fun part hp => ?_).append _
    rw [List.map_map] at hp
    obtain ⟨c, -, rfl⟩ := List.mem_map.1 hp
    exact c.endsSolid_fragment caps

namespace Window

theorem endsSolid_limitOffset? {w : Window} {line : Text} (h : w.limitOffset? caps = some line) :
    EndsSolid line := by
  -- Whatever the form, the line ends with a number.
  rcases limitOffset?_cases h with ⟨n, rfl⟩ | ⟨n, m, rfl⟩ | ⟨m, -, rfl⟩ | ⟨all, m, -, rfl⟩
  · exact (Text.endsSolid_toText n).append _
  · exact (Text.endsSolid_toText m).append _
  · exact (Text.endsSolid_toText m).append _
  · exact (Text.endsSolid_toText m).append _

theorem endsSolid_fetch (limit : Option Count) (m : Count) : EndsSolid (fetch limit m) := by
  cases limit with
  | none =>
    rw [fetch_none]
    exact EndsSolid.append _ ⟨'S', rfl, rfl⟩
  | some n =>
    rw [fetch_some]
    exact EndsSolid.append _ ⟨'Y', rfl, rfl⟩

theorem endsSolid_suffix {w : Window} {line : Text} (h : (w.placement caps).suffix = some line) :
    EndsSolid line := by
  rcases suffix_cases h with ⟨-, h⟩ | ⟨-, m, rfl⟩
  · exact endsSolid_limitOffset? h
  · exact endsSolid_fetch w.limit m

end Window

/-! ## Statements -/

namespace Statement

/-- Every section of the statement of a well-formed query ends solid, so none is without text. -/
theorem endsSolid_of_mem_sections (regular : caps.Regular) {table : Text} {q : Query}
    (h : q.WellFormed) : ∀ line ∈ (ofQuery caps table q).sections, EndsSolid line.sql := by
  intro line hl
  simp only [sections, ofQuery, List.mem_append, List.mem_singleton, Option.mem_toList,
    Option.map_eq_some_iff, List.mem_map] at hl
  rcases hl with (((((rfl | ⟨text, ⟨j, hj, rfl⟩, rfl⟩) | hl) | ⟨text, hl, rfl⟩) | hl) |
    ⟨text, hl, rfl⟩) | ⟨text, hl, rfl⟩
  · rw [Fragment.sql_raw]
    exact ((Capabilities.endsSolid_tableReference regular table).append _).append _
  · rw [Fragment.sql_raw]
    exact Join.endsSolid_toSql (h.joins j hj)
  · exact endsSolid_conditionClause? hl
  · rw [Fragment.sql_raw]
    exact endsSolid_groupingLine? regular hl
  · exact endsSolid_conditionClause? hl
  · rw [Fragment.sql_raw]
    exact endsSolid_orderingLine? hl
  · rw [Fragment.sql_raw]
    exact Window.endsSolid_suffix hl

theorem exists_selection_eq (caps : Capabilities) (table : Text) (q : Query) :
    ∃ rest, (ofQuery caps table q).selection = 'S' :: rest :=
  ⟨_, rfl⟩

/-- The statement of a well-formed query is its sections, one on a line. -/
theorem compiled_ofQuery (regular : caps.Regular) {table : Text} {q : Query} (h : q.WellFormed) :
    (ofQuery caps table q).compiled =
      { sql := (Fragment.join ['\n'] (ofQuery caps table q).sections).sql
        bindings := (Fragment.join ['\n'] (ofQuery caps table q).sections).bindings } := by
  have solid : ∀ line ∈ (ofQuery caps table q).sections, EndsSolid line.sql :=
    endsSolid_of_mem_sections regular h
  have fragment_eq : (ofQuery caps table q).fragment =
      Fragment.join ['\n'] (ofQuery caps table q).sections := by
    rw [fragment, List.filter_eq_self.2]
    intro line hl
    simpa [Fragment.isBlank] using (solid line hl).ne_nil
  have trimmed : Text.trim (Fragment.join ['\n'] (ofQuery caps table q).sections).sql =
      (Fragment.join ['\n'] (ofQuery caps table q).sections).sql := by
    rw [Fragment.sql_join]
    refine Text.trim_eq_self_of_endsSolid ?_ (Text.endsSolid_intercalate ?_ ?_)
    · obtain ⟨rest, select⟩ := exists_selection_eq caps table q
      simp only [sections, select, List.append_assoc, List.cons_append, List.map_cons,
        Fragment.sql_raw, List.intercalate_cons_cons_left, List.head?_cons, Option.mem_def,
        Option.some.injEq, forall_eq']
      decide
    · simp [sections]
    · intro text ht
      obtain ⟨line, hl, rfl⟩ := List.mem_map.1 ht
      exact solid line hl
  rw [compiled, fragment_eq, trimmed]

end Statement

/-- A compiled statement comes from a well-formed query, and is its sections, one on a line. -/
theorem Dialect.exists_of_compile {dialect : Dialect} {table : Text} {p : Params} {c : Compiled}
    (h : dialect.compile table p = .ok c) :
    isIdentifier table = true ∧ Query.refusal? p = none ∧ (Query.kept p).WellFormed ∧
      c =
        { sql := (Fragment.join ['\n']
            (Statement.ofQuery dialect.capabilities table (Query.kept p)).sections).sql
          bindings := (Fragment.join ['\n']
            (Statement.ofQuery dialect.capabilities table (Query.kept p)).sections).bindings } := by
  obtain ⟨valid, q, hq, rfl⟩ := compile_eq_ok_iff.1 h
  obtain ⟨accepted, rfl⟩ := Query.ofParams_eq_ok_iff.1 hq
  have wellFormed := Query.wellFormed_kept p
  exact ⟨valid, accepted, wellFormed, Statement.compiled_ofQuery dialect.regular wellFormed⟩

end FilterSql
