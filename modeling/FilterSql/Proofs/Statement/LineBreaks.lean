/-
# FilterSql.Proofs.Statement.LineBreaks -- the line breaks of a statement

The writer puts one line break between neighbouring sections, and no section is without text. So a
statement has one line for each section and no blank line -- unless a select expression brings line
breaks of its own: blanks of any kind may stand inside an expression, and it is written as it was
given. `Dialect.lines_of_compile` says that there is no other way: the lines are the sections
exactly when no expression that is shown has a line break, and two line breaks stand together
exactly when they do so in one of these.
-/

import Mathlib.Data.List.Chain
import FilterSql.Proofs.Statement.Characters
import FilterSql.Proofs.Window.Ordering

namespace FilterSql

/-! ## Texts without blank lines -/

/-- A part of a list that is put together is a part of the whole. -/
theorem infix_intercalate {α : Type} {separator part : List α} {parts : List (List α)}
    (h : part ∈ parts) : part <:+: separator.intercalate parts := by
  induction parts with
  | nil => cases h
  | cons first rest ih =>
    cases rest with
    | nil =>
      rw [List.intercalate_singleton]
      exact (List.mem_singleton.1 h).symm ▸ List.infix_rfl
    | cons next rest =>
      rw [List.intercalate_cons_cons, List.append_assoc]
      rcases List.mem_cons.1 h with rfl | h
      · exact (List.prefix_append _ _).isInfix
      · exact ((ih h).trans (List.suffix_append _ _).isInfix).trans
          (List.suffix_append _ _).isInfix

namespace Text

/-- No two line breaks stand together. -/
def Calm (s : Text) : Prop := ¬ ['\n', '\n'] <:+: s

/-- No neighbours are both line breaks. -/
theorem calm_iff_isChain {s : Text} : Calm s ↔ s.IsChain fun c d => ¬ (c = '\n' ∧ d = '\n') := by
  rw [List.isChain_iff_forall_rel_of_append_cons_cons]
  constructor
  · rintro calm c d front back rfl ⟨rfl, rfl⟩
    exact calm ⟨front, back, by simp⟩
  · rintro apart ⟨front, back, rfl⟩
    have neighbours : front ++ ['\n', '\n'] ++ back = front ++ '\n' :: '\n' :: back := by simp
    exact apart neighbours ⟨rfl, rfl⟩

theorem calm_of_not_mem {s : Text} (h : '\n' ∉ s) : Calm s :=
  fun doubled => h (doubled.subset List.mem_cons_self)

/-- Texts that meet in another character stay calm. -/
theorem Calm.append {s t : Text} (hs : Calm s) (ht : Calm t)
    (meet : s.getLast? ≠ some '\n' ∨ t.head? ≠ some '\n') : Calm (s ++ t) := by
  rw [calm_iff_isChain, List.isChain_append]
  refine ⟨calm_iff_isChain.1 hs, calm_iff_isChain.1 ht, ?_⟩
  rintro c last d first ⟨rfl, rfl⟩
  exact meet.elim (· last) (· first)

/-- The entries of a list meet in commas and spaces. -/
theorem calm_commas {parts : List Text} (h : ∀ part ∈ parts, Calm part) :
    Calm (", ".toList.intercalate parts) := by
  induction parts with
  | nil => exact calm_of_not_mem List.not_mem_nil
  | cons part rest ih =>
    obtain ⟨first, others⟩ := List.forall_mem_cons.1 h
    cases rest with
    | nil =>
      rw [List.intercalate_singleton]
      exact first
    | cons next rest =>
      have comma : Calm ", ".toList := calm_of_not_mem (by decide)
      have space : (part ++ ", ".toList).getLast? ≠ some '\n' := by simp
      rw [List.intercalate_cons_cons]
      exact (first.append comma (.inr (by decide))).append (ih others) (.inl space)

/-- Lines that have text at both ends do not make a blank line. -/
theorem calm_lines {lines : List Text}
    (h : ∀ line ∈ lines, Calm line ∧ EndsSolid line ∧ line.head? ≠ some '\n') :
    Calm (['\n'].intercalate lines) := by
  induction lines with
  | nil => exact calm_of_not_mem List.not_mem_nil
  | cons line rest ih =>
    obtain ⟨⟨calm, solid, -⟩, others⟩ := List.forall_mem_cons.1 h
    cases rest with
    | nil =>
      rw [List.intercalate_singleton]
      exact calm
    | cons next rest =>
      obtain ⟨-, text, start⟩ := others next List.mem_cons_self
      have first : (['\n'].intercalate (next :: rest)).head? = next.head? := by
        cases rest with
        | nil => rw [List.intercalate_singleton]
        | cons _ _ =>
          rw [List.intercalate_cons_cons, List.append_assoc,
            List.head?_append_of_ne_nil _ text.ne_nil]
      have stop : line.getLast? ≠ some '\n' := by
        obtain ⟨c, last, notBlank⟩ := solid
        rw [last]
        rintro ⟨⟩
        exact absurd notBlank (by decide)
      have after : Calm (['\n'] ++ ['\n'].intercalate (next :: rest)) :=
        Calm.append (fun doubled => absurd doubled.length_le (by decide)) (ih others)
          (.inr (first ▸ start))
      rw [List.intercalate_cons_cons, List.append_assoc]
      exact calm.append after (.inl stop)

end Text

/-! ## The lines of a statement -/

/-- The words of a dialect have no line break. -/
theorem Dialect.coveredBy_ne_break (dialect : Dialect) :
    dialect.capabilities.CoveredBy (· != '\n') := by
  refine dialect.coveredBy (fun c plain => bne_iff_ne.2 ?_) rfl
  rintro rfl
  exact absurd plain (by decide)

theorem Text.within_ne_break_iff {s : Text} : s.Within (· != '\n') ↔ '\n' ∉ s := by
  simp only [Within, bne_iff_ne]
  exact ⟨fun other mem => other _ mem rfl, fun absent c hc same => absent (same ▸ hc)⟩

/-- An expression that is shown is part of the select list. -/
theorem Query.infix_selectList (caps : Capabilities) {q : Query} {text : Text}
    (h : text ∈ q.expressions) : text <:+: selectList caps q.projection q.exclude := by
  obtain ⟨shown, mem⟩ := mem_expressions_iff.1 h
  unfold selectList
  rw [if_neg (not_or.2 ⟨List.ne_nil_of_mem mem, shown⟩)]
  exact infix_intercalate (List.mem_map.2 ⟨_, mem, rfl⟩)

namespace Statement

variable {dialect : Dialect} {table : Text} {q : Query}

/-- A select list is calm when the expressions that it shows are. -/
theorem calm_selectList (h : q.WellFormed) (shown : ∀ text ∈ q.expressions, Text.Calm text) :
    Text.Calm (selectList dialect.capabilities q.projection q.exclude) := by
  unfold selectList
  split
  · exact Text.calm_of_not_mem (by decide)
  · next list =>
    refine Text.calm_commas fun part hp => ?_
    obtain ⟨entry, he, rfl⟩ := List.mem_map.1 hp
    cases entry with
    | wildcard => exact Text.calm_of_not_mem (by decide : '\n' ∉ "*".toList)
    | column name =>
      exact Text.calm_of_not_mem (Text.within_ne_break_iff.1
        (Text.within_quote dialect.coveredBy_ne_break (h.projection _ he)))
    | expression text =>
      exact shown text (Query.mem_expressions_iff.2 ⟨fun whole => list (.inr whole), he⟩)

/-- A line is the first one, or has no line break. -/
theorem eq_or_not_mem_of_mem_lines (h : q.WellFormed) {line : Text}
    (hl : line ∈ (ofQuery dialect.capabilities table q).lines) :
    line = (ofQuery dialect.capabilities table q).selection ∨ '\n' ∉ line := by
  obtain ⟨fragment, mem, rfl⟩ := List.mem_map.1 hl
  rcases eq_or_within_of_mem_sections dialect.coveredBy_ne_break h mem with rfl | within
  · exact .inl (Fragment.sql_raw _)
  · exact .inr (Text.within_ne_break_iff.1 (within.sql (by decide)))

theorem selection_mem_lines (s : Statement) : s.selection ∈ s.lines := by
  rw [lines_eq, front, List.cons_append, List.cons_append]
  exact List.mem_cons_self

variable (valid : isIdentifier table = true) (h : q.WellFormed)

include valid h

/-- The lines are free of line breaks when the expressions that are shown are. -/
theorem forall_lines_iff :
    (∀ line ∈ (ofQuery dialect.capabilities table q).lines, '\n' ∉ line) ↔
      ∀ text ∈ q.expressions, '\n' ∉ text := by
  obtain ⟨front, back, selection, before, behind⟩ :=
    exists_selection_eq_append dialect.coveredBy_ne_break valid q
  constructor
  · intro free text shown mem
    refine free _ (selection_mem_lines _) ?_
    rw [selection]
    simp [(Query.infix_selectList dialect.capabilities shown).subset mem]
  · intro free line hl
    obtain ⟨fragment, mem, rfl⟩ := List.mem_map.1 hl
    exact Text.within_ne_break_iff.1 ((within_of_mem_sections dialect.coveredBy_ne_break valid h
      (fun text shown => Text.within_ne_break_iff.2 (free text shown)) mem).sql (by decide))

/-- The first line is calm when the expressions that are shown are. -/
theorem calm_selection (shown : ∀ text ∈ q.expressions, Text.Calm text) :
    Text.Calm (ofQuery dialect.capabilities table q).selection := by
  obtain ⟨front, back, selection, before, behind⟩ :=
    exists_selection_eq_append dialect.coveredBy_ne_break valid q
  rw [Text.within_ne_break_iff] at before behind
  rw [selection]
  exact ((Text.calm_of_not_mem before).append (calm_selectList h shown)
    (.inl fun last => before (List.mem_of_mem_getLast? last))).append (Text.calm_of_not_mem behind)
    (.inr fun first => behind (List.mem_of_mem_head? first))

/-- Two line breaks stand together in a statement when they do so in an expression that is shown. -/
theorem doubled_lines_iff :
    ['\n', '\n'] <:+: ['\n'].intercalate (ofQuery dialect.capabilities table q).lines ↔
      ∃ text ∈ q.expressions, ['\n', '\n'] <:+: text := by
  constructor
  · contrapose!
    intro shown
    refine Text.calm_lines fun line hl => ?_
    have solid : Text.EndsSolid line := by
      obtain ⟨fragment, mem, rfl⟩ := List.mem_map.1 hl
      exact endsSolid_of_mem_sections dialect.regular h fragment mem
    rcases eq_or_not_mem_of_mem_lines h hl with rfl | free
    · obtain ⟨rest, start⟩ := exists_selection_eq dialect.capabilities table q
      refine ⟨calm_selection valid h shown, solid, ?_⟩
      rw [start, List.head?_cons]
      decide
    · exact ⟨Text.calm_of_not_mem free, solid, fun first => free (List.mem_of_mem_head? first)⟩
  · rintro ⟨text, shown, doubled⟩
    obtain ⟨front, back, selection, -, -⟩ :=
      exists_selection_eq_append dialect.coveredBy_ne_break valid q
    have list := Query.infix_selectList dialect.capabilities shown
    have first : selectList dialect.capabilities q.projection q.exclude <:+:
        (ofQuery dialect.capabilities table q).selection := ⟨front, back, selection.symm⟩
    exact ((doubled.trans list).trans first).trans (infix_intercalate (selection_mem_lines _))

end Statement

/-- How the text of a statement falls into lines. It is the texts of its sections, none of them
empty, with one line break between neighbours. Splitting it at line breaks gives the sections back
exactly when no expression that is shown has a line break in it, and there is a blank line exactly
when there is one within such an expression. -/
theorem Dialect.lines_of_compile {dialect : Dialect} {table : Text} {p : Params} {c : Compiled}
    (h : dialect.compile table p = .ok c) :
    ∃ (q : Query) (lines : List Text), Query.ofParams p = .ok q ∧
      lines = (Statement.ofQuery dialect.capabilities table q).lines ∧
        c.sql = ['\n'].intercalate lines ∧ (∀ line ∈ lines, line ≠ []) ∧
        (c.sql.splitOn '\n' = lines ↔ ∀ text ∈ q.expressions, '\n' ∉ text) ∧
        (['\n', '\n'] <:+: c.sql ↔ ∃ text ∈ q.expressions, ['\n', '\n'] <:+: text) := by
  obtain ⟨valid, accepted, wellFormed, rfl⟩ := exists_of_compile h
  refine ⟨Query.kept p, _, Query.ofParams_eq_ok_iff.2 ⟨accepted, rfl⟩, rfl, ?_⟩
  generalize Query.kept p = q at wellFormed
  have sql : (Fragment.join ['\n'] (Statement.ofQuery dialect.capabilities table q).sections).sql =
      ['\n'].intercalate (Statement.ofQuery dialect.capabilities table q).lines :=
    Fragment.sql_join _ _
  have ne := List.ne_nil_of_mem
    (Statement.selection_mem_lines (Statement.ofQuery dialect.capabilities table q))
  dsimp only
  rw [sql]
  refine ⟨rfl, fun line hl => ?_, ?_, Statement.doubled_lines_iff valid wellFormed⟩
  · obtain ⟨fragment, mem, rfl⟩ := List.mem_map.1 hl
    exact (Statement.endsSolid_of_mem_sections dialect.regular wellFormed fragment mem).ne_nil
  · rw [← Statement.forall_lines_iff valid wellFormed]
    constructor
    · intro split line hl
      rw [← split] at hl
      exact not_mem_of_mem_splitOn hl
    · exact fun free => List.splitOn_intercalate '\n' free ne

/-- One line break in front of an alias takes the first section to two lines, and no line is blank.
-/
theorem Dialect.lines_of_compile_alias :
    let p := Params.ofPairs [("select", "id, COUNT(*)\nAS n"), ("a", "eq.1")]
    let c : Compiled := ⟨"SELECT \"id\", COUNT(*)\nAS n FROM \"t\"\nWHERE \"a\" = ?", ["1"]⟩
    postgres.compile "t" p = .ok c ∧ ¬ ['\n', '\n'] <:+: c.sql ∧
      ∃ q, Query.ofParams p = .ok q ∧
        c.sql.splitOn '\n' ≠ (Statement.ofQuery postgres.capabilities "t" q).lines := by
  intro p c
  have compiled : postgres.compile "t" p = .ok c := by decide +kernel
  have shown : (Query.kept p).expressions = ["COUNT(*)\nAS n".toList] := by decide +kernel
  obtain ⟨q, lines, read, rfl, -, -, split, doubled⟩ := lines_of_compile compiled
  have kept : q.expressions = (Query.kept p).expressions :=
    congrArg Query.expressions (Query.ofParams_eq_ok_iff.1 read).2
  rw [kept, shown, List.forall_mem_singleton] at split
  simp only [kept, shown, List.mem_singleton, exists_eq_left] at doubled
  have broken : '\n' ∈ "COUNT(*)\nAS n".toList := by decide
  have calm : Text.Calm "COUNT(*)\nAS n".toList := Text.calm_iff_isChain.2 (by decide)
  exact ⟨compiled, fun blank => calm (doubled.1 blank), q, read, fun same => split.1 same broken⟩

/-- Three line breaks in a call, which is checked with blanks of any kind around its argument, make
two blank lines. -/
theorem Dialect.compile_blank_lines :
    let p := Params.ofPairs [("select", "COUNT(\n\n\nid)")]
    let c : Compiled := ⟨"SELECT COUNT(\n\n\nid) FROM \"t\"", []⟩
    postgres.compile "t" p = .ok c ∧ ['\n', '\n'] <:+: c.sql ∧
      c.sql.splitOn '\n' = ["SELECT COUNT(".toList, [], [], "id) FROM \"t\"".toList] := by
  intro p c
  have compiled : postgres.compile "t" p = .ok c := by decide +kernel
  exact ⟨compiled, ⟨"SELECT COUNT(".toList, "\nid) FROM \"t\"".toList, by decide⟩, by decide⟩

end FilterSql
