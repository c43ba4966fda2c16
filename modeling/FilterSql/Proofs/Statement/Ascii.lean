/-
# FilterSql.Proofs.Statement.Ascii -- statements and expressions in ASCII

Names and fixed words are ASCII, and so is a statement, up to what a select expression brings along.
Two kinds of characters beyond ASCII can stand there: blanks, which count as such in the sense of
Unicode, and the long s, which folds to an s. So the functions that an expression calls and the
keyword of its alias are those of the checker up to ASCII letter case once a long s is read as an s.

An alias is told here by the words of the text, not by how the checker goes through it: the keyword
is the last word but one, and it is there when the last word is a name.
-/

import FilterSql.Proofs.Statement.Characters
import FilterSql.Proofs.Text.Utf8
import FilterSql.Proofs.Window.Ordering

namespace FilterSql

/-! ## Characters beyond ASCII -/

namespace Text

theorem isAscii_of_isNameChar {c : Char} (h : isNameChar c = true) : isAscii c = true := by
  simp only [isNameChar, Bool.or_eq_true, decide_eq_true_eq] at h
  rcases h with letter | rfl
  · exact isAscii_of_isAlphanum letter
  · rfl

theorem isAscii_of_isPlainChar {c : Char} (h : isPlainChar c = true) : isAscii c = true := by
  simp only [isPlainChar, Bool.or_eq_true, List.contains_iff_mem] at h
  rcases h with name | sign
  · exact isAscii_of_isNameChar name
  · have signs : [' ', '.', '*', ',', '(', ')', '=', '<', '>', '-'].all isAscii = true := rfl
    exact List.all_eq_true.1 signs c sign

/-- Beyond ASCII an expression has blanks and the long s. -/
theorem isBlank_or_eq_of_isExpressionChar {c : Char} (h : isExpressionChar c = true)
    (beyond : isAscii c = false) : isBlank c = true ∨ c = '\u017F' := by
  simp only [isExpressionChar, Bool.or_eq_true, List.contains_iff_mem] at h
  rcases h with (name | blank) | sign
  · rw [isAscii_of_isNameChar name] at beyond
    cases beyond
  · exact .inl blank
  · have signs : ['.', '*', ',', '(', ')', '\u017F'].all
        (fun c => isAscii c || c == '\u017F') = true := rfl
    have known := List.all_eq_true.1 signs c sign
    rw [beyond, Bool.false_or, beq_iff_eq] at known
    exact .inr known

/-! ## Letter case -/

/-- The text with every long s read as an s. -/
def shortS (s : Text) : Text := s.map fun c => if c = '\u017F' then 's' else c

/-- Folding to a word without a k is a matter of ASCII letter case and the long s. -/
theorem lower_shortS_of_fold {s word : Text} (fold : s.map Expression.foldCase = word)
    (other : 'k' ∉ word) : lower (shortS s) = word := by
  have each : ∀ c ∈ s, Char.toLower (if c = '\u017F' then 's' else c) = Expression.foldCase c := by
    intro c hc
    have letter : Expression.foldCase c ≠ 'k' := fun k =>
      other (fold ▸ k ▸ List.mem_map_of_mem hc)
    unfold Expression.foldCase at letter ⊢
    split
    · rfl
    · next short =>
      rw [if_neg short] at letter
      split
      · next kelvin => exact absurd (if_pos kelvin) letter
      · rfl
  rw [lower, shortS, List.map_map, ← fold]
  exact List.map_congr_left each

/-! ## The last words of a text -/

/-- The last two words of the text: nothing but blanks stands between them, nothing behind them, and
a blank in front of them. -/
structure LastWords (s keyword name : Text) : Prop where
  /-- Where they stand. -/
  whole : ∃ (front gap : Text) (b g : Char), isBlank b = true ∧ isBlank g = true ∧
    (∀ c ∈ gap, isBlank c = true) ∧ s = front ++ b :: (keyword ++ gap) ++ g :: name
  /-- The last word but one is a word. -/
  keyword : keyword ≠ [] ∧ ∀ c ∈ keyword, isBlank c = false
  /-- So is the last. -/
  name : name ≠ [] ∧ ∀ c ∈ name, isBlank c = false

/-- For a fixed word the hypothesis is a computation. -/
theorem isBlank_eq_false_of_any {word : Text} (h : word.any isBlank = false) :
    ∀ c ∈ word, isBlank c = false := by
  simpa using h

theorem LastWords.append {s keyword name : Text} (h : LastWords s keyword name) (front : Text) :
    LastWords (front ++ s) keyword name := by
  obtain ⟨⟨before, gap, b, g, hb, hg, blanks, rfl⟩, word, last⟩ := h
  exact ⟨⟨front ++ before, gap, b, g, hb, hg, blanks, by simp⟩, word, last⟩

/-- A text has only one last word but one. -/
theorem LastWords.keyword_unique {s keyword keyword' name name' : Text}
    (h : LastWords s keyword name) (h' : LastWords s keyword' name') : keyword = keyword' := by
  have solid : ∀ {word : Text}, (∀ c ∈ word, isBlank c = false) → ∀ c ∈ word,
      (!isBlank c) = true := fun words c hc => by simp [words c hc]
  obtain ⟨⟨front, gap, b, g, hb, hg, blanks, rfl⟩, ⟨ne, word⟩, -, last⟩ := h
  obtain ⟨⟨front', gap', b', g', hb', hg', blanks', same⟩, ⟨ne', word'⟩, -, last'⟩ := h'
  -- The last word ends the text, then the gap the rest, and then the keyword what is left.
  obtain ⟨fronts, -, -⟩ := append_cons_inj_right (solid last) (solid last') (by simp [hg])
    (by simp [hg']) same
  obtain ⟨letters, c, rfl⟩ := (List.eq_nil_or_concat' keyword).resolve_left ne
  obtain ⟨letters', c', rfl⟩ := (List.eq_nil_or_concat' keyword').resolve_left ne'
  have regroup : ∀ (front letters gap : Text) (b c : Char),
      front ++ b :: (letters ++ [c] ++ gap) = front ++ b :: letters ++ c :: gap := by
    intro front letters gap b c
    simp
  rw [regroup, regroup] at fronts
  obtain ⟨words, rfl, -⟩ := append_cons_inj_right blanks blanks' (word c (by simp))
    (word' c' (by simp)) fronts
  have inner : ∀ d ∈ letters, isBlank d = false := fun d hd => word d (by simp [hd])
  have inner' : ∀ d ∈ letters', isBlank d = false := fun d hd => word' d (by simp [hd])
  obtain ⟨-, -, rfl⟩ := append_cons_inj_right (solid inner) (solid inner') (by simp [hb])
    (by simp [hb']) words
  rfl

end Text

/-! ## The words of an expression -/

namespace Expression

open Text (LastWords shortS)

/-- The last two words of an alias are the keyword and a name. -/
theorem exists_of_isAlias {s : Text} (h : isAlias s = true) :
    ∃ keyword name, LastWords s keyword name ∧ Text.lower (shortS keyword) = "as".toList := by
  obtain ⟨before, keyword, after, name, rfl, ⟨filled, blank⟩, fold, ⟨filled', blank'⟩, named⟩ :=
    isAlias_iff.1 h
  obtain ⟨front, b, rfl⟩ := (List.eq_nil_or_concat' before).resolve_left filled
  obtain ⟨gap, g, rfl⟩ := (List.eq_nil_or_concat' after).resolve_left filled'
  refine ⟨keyword, name, ⟨⟨front, gap, b, g, blank b (by simp), blank' g (by simp),
    fun c hc => blank' c (by simp [hc]), by simp⟩, ⟨?_, (keyword_solid fold).2⟩, ?_,
    isBlank_eq_false_of_isName named⟩, Text.lower_shortS_of_fold fold (by decide)⟩
  · rintro rfl
    cases fold
  · rintro rfl
    cases named

/-- What has no two last words of its own has those of its alias. -/
theorem lower_of_isTail {body tail keyword name : Text} (h : isTail tail = true)
    (bare : ¬ LastWords body keyword name) (words : LastWords (body ++ tail) keyword name) :
    Text.lower (shortS keyword) = "as".toList := by
  by_cases empty : tail = []
  · rw [empty, List.append_nil] at words
    exact absurd words bare
  · have renamed : isAlias tail = true := by simpa [isTail, empty] using h
    obtain ⟨keyword', name', words', lower⟩ := exists_of_isAlias renamed
    rw [words.keyword_unique (words'.append body)]
    exact lower

theorem lower_of_isColumn {s keyword name : Text} (h : isColumn s = true)
    (words : LastWords s keyword name) : Text.lower (shortS keyword) = "as".toList := by
  simp only [isColumn, Bool.and_eq_true] at h
  obtain ⟨column, tail⟩ := h
  rw [← List.takeWhile_append_dropWhile (p := fun c => isNameChar c || c = '.') (l := s)] at words
  refine lower_of_isTail tail (fun own => ?_) words
  -- There is no blank in an identifier.
  obtain ⟨⟨front, gap, b, g, hb, -, -, whole⟩, -, -⟩ := own
  have mem : b ∈ s.takeWhile fun c => isNameChar c || c = '.' := by
    rw [whole]
    simp
  rcases isNameChar_of_isIdentifier column b mem with letter | rfl
  · rw [isBlank_eq_false_of_isNameChar letter] at hb
    cases hb
  · cases hb

theorem lower_of_isCall {s keyword name : Text} (h : isCall s = true)
    (words : LastWords s keyword name) (named : isName name = true) :
    Text.lower (shortS keyword) = "as".toList := by
  obtain ⟨aggregate, arguments, tail, rfl, -, -, -, rename⟩ := cases_of_isCall h
  refine lower_of_isTail rename (fun own => ?_) words
  -- A parenthesis is no name, nor does one end with it.
  obtain ⟨⟨front, gap, b, g, -, -, -, whole⟩, -, ne, -⟩ := own
  have last := congrArg List.getLast? whole
  have closing : (aggregate ++ '(' :: (arguments ++ [')'])).getLast? = some ')' := by
    rw [← List.cons_append, ← List.append_assoc, List.getLast?_concat]
  rw [closing, List.getLast?_append_of_ne_nil _ (List.cons_ne_nil g name),
    List.getLast?_cons_of_ne_nil ne] at last
  exact absurd (isNameChar_of_isName named ')' (List.mem_of_mem_getLast? last.symm)) (by decide)

/-- The name in front of the parenthesis is that of an aggregate. -/
theorem lower_mem_aggregates {s name rest : Text} (h : isExpression s = true)
    (trimmed : Text.IsTrimmed s) (opened : s = name ++ '(' :: rest) (first : '(' ∉ name) :
    Text.lower (shortS name) ∈ aggregates := by
  rw [isExpression, Text.trim_eq_self_iff.2 trimmed, Bool.or_eq_true] at h
  rcases h with column | call
  · have mem : '(' ∈ s := by simp [opened]
    exact absurd (isPartChar_of_isColumn column '(' mem) (by decide)
  · obtain ⟨name', arguments, tail, whole, first', aggregate, -, -⟩ := cases_of_isCall call
    rw [whole, List.append_assoc, List.cons_append] at opened
    have cut := cut?_append rest first
    rw [← opened, cut?_append _ first'] at cut
    obtain ⟨rfl, -⟩ := Prod.mk.inj (Option.some.inj cut)
    have short : ∀ word ∈ aggregates, 'k' ∉ word := by decide
    have mem : name'.map foldCase ∈ aggregates := List.contains_iff_mem.1 aggregate
    rw [Text.lower_shortS_of_fold rfl (short _ mem)]
    exact mem

/-- The last word but one in front of a name is the keyword of the alias. -/
theorem lower_of_lastWords {s keyword name : Text} (h : isExpression s = true)
    (trimmed : Text.IsTrimmed s) (words : LastWords s keyword name) (named : isName name = true) :
    Text.lower (shortS keyword) = "as".toList := by
  rw [isExpression, Text.trim_eq_self_iff.2 trimmed, Bool.or_eq_true] at h
  rcases h with column | call
  · exact lower_of_isColumn column words
  · exact lower_of_isCall call words named

end Expression

/-! ## Statements -/

/-- The words of a dialect are ASCII. -/
theorem Dialect.coveredBy_isAscii_or (dialect : Dialect) (other : Char → Bool) :
    dialect.capabilities.CoveredBy fun c => Text.isAscii c || other c := by
  refine dialect.coveredBy (fun c plain => ?_) rfl
  rw [Text.isAscii_of_isPlainChar plain, Bool.true_or]

/-- A statement is ASCII but for blanks and long s in the select expressions that it shows. In a
select expression the name in front of the first parenthesis is that of an aggregate, and the word
in front of a name at its end the keyword of an alias, up to ASCII letter case once every long s is
read as an s. -/
theorem Dialect.ascii_of_compile {dialect : Dialect} {table : Text} {p : Params} {c : Compiled}
    (h : dialect.compile table p = .ok c) :
    ∃ q, Query.ofParams p = .ok q ∧
      c = (Statement.ofQuery dialect.capabilities table q).compiled ∧
        (∀ d ∈ c.sql, Text.isAscii d = true ∨
          (Text.isBlank d = true ∨ d = '\u017F') ∧ ∃ text ∈ q.expressions, d ∈ text) ∧
        ∀ text, .expression text ∈ q.projection →
          (∀ name rest : Text, text = name ++ '(' :: rest → '(' ∉ name →
            Text.lower (Text.shortS name) ∈
              (["count", "sum", "avg", "min", "max"] : List Text)) ∧
          ∀ keyword name : Text, Text.LastWords text keyword name → isName name = true →
            Text.lower (Text.shortS keyword) = "as" := by
  obtain ⟨valid, accepted, wellFormed, written⟩ := exists_of_compile h
  have read : Query.ofParams p = .ok (Query.kept p) := Query.ofParams_eq_ok_iff.2 ⟨accepted, rfl⟩
  have compiled : (Statement.ofQuery dialect.capabilities table (Query.kept p)).compiled = _ :=
    Statement.compiled_ofQuery dialect.regular wellFormed
  refine ⟨Query.kept p, read, written.trans compiled.symm, fun d hd => ?_, fun text shown => ?_⟩
  · let keep := fun c => Text.isAscii c || (Query.kept p).expressions.any (·.contains c)
    have covered : dialect.capabilities.CoveredBy keep := dialect.coveredBy_isAscii_or _
    have kept : ∀ text ∈ (Query.kept p).expressions, Text.Within keep text := by
      intro text shown c hc
      refine Bool.or_eq_true_iff.2 (.inr (List.any_eq_true.2 ⟨text, shown, ?_⟩))
      exact List.contains_iff_mem.2 hc
    have newline : Text.Within keep ['\n'] := fun c hc => List.mem_singleton.1 hc ▸ rfl
    have within : Text.Within keep c.sql := by
      rw [written]
      exact (Fragment.within_join newline fun line hl =>
        Statement.within_of_mem_sections covered valid wellFormed kept hl).sql rfl
    cases ascii : Text.isAscii d with
    | true => exact .inl rfl
    | false =>
      have mem := within d hd
      simp only [keep, ascii, Bool.false_or, List.any_eq_true, List.contains_iff_mem] at mem
      obtain ⟨text, shown, hc⟩ := mem
      obtain ⟨accepted, -⟩ := wellFormed.projection _ (Query.mem_expressions_iff.1 shown).2
      exact .inr ⟨Text.isBlank_or_eq_of_isExpressionChar
        (isExpressionChar_of_isExpression accepted d hc) ascii, text, shown, hc⟩
  · obtain ⟨accepted, trimmed, -⟩ := wellFormed.projection _ shown
    exact ⟨fun name rest => Expression.lower_mem_aggregates accepted trimmed, fun keyword name =>
      Expression.lower_of_lastWords accepted trimmed⟩

/-- A call in capitals with a no-break space in it, behind a qualified column with an alias. -/
theorem Dialect.ascii_of_compile_no_break_space :
    let p := Params.ofPairs [("select", "t.a\taS b, MAX(\u00A0c ,d)")]
    let c : Compiled := ⟨"SELECT t.a\taS b, MAX(\u00A0c ,d) FROM \"t\"", []⟩
    sqlite.compile "t" p = .ok c ∧ Text.isAscii '\u00A0' = false ∧ '\u00A0' ∈ c.sql ∧
      Text.isBlank '\u00A0' = true ∧
        (∃ q, Query.ofParams p = .ok q ∧ ∃ text ∈ q.expressions, '\u00A0' ∈ text) ∧
        Text.lower (Text.shortS "MAX") ∈ (["count", "sum", "avg", "min", "max"] : List Text) ∧
        Text.LastWords "t.a\taS b" "aS" "b" ∧ Text.lower (Text.shortS "aS") = "as" := by
  intro p c
  have compiled : sqlite.compile "t" p = .ok c := by decide +kernel
  have beyond : Text.isAscii '\u00A0' = false := rfl
  have mem : '\u00A0' ∈ c.sql := by decide
  have words : Text.LastWords "t.a\taS b" "aS" "b" :=
    ⟨⟨"t.a", [], '\t', ' ', rfl, rfl, List.forall_mem_nil _, rfl⟩,
      ⟨by decide, Text.isBlank_eq_false_of_any rfl⟩, by decide, Text.isBlank_eq_false_of_any rfl⟩
  obtain ⟨q, read, -, characters, expressions⟩ := ascii_of_compile compiled
  have kept : q = Query.kept p := (Query.ofParams_eq_ok_iff.1 read).2
  have call := expressions "MAX(\u00A0c ,d)" (by rw [kept]; decide +kernel)
  have renamed := expressions "t.a\taS b" (by rw [kept]; decide +kernel)
  obtain ⟨blank, shown⟩ := (characters '\u00A0' mem).resolve_left (by rw [beyond]; decide)
  exact ⟨compiled, beyond, mem, blank.resolve_right (by decide), ⟨q, read, shown⟩,
    call.1 "MAX" "\u00A0c ,d)" rfl (by decide), words, renamed.2 "aS" "b" words (by decide)⟩

/-- A no-break space and two long s stand in a statement: in the name of the function that an
expression calls, which is no aggregate up to ASCII letter case, and in the keyword of its alias. -/
theorem Dialect.compile_long_s :
    let text : Text := "\u017Fum(\u00A0id) a\u017F n"
    let p := Params.ofPairs [("select", text)]
    let c : Compiled := ⟨"SELECT \u017Fum(\u00A0id) a\u017F n FROM \"t\"", []⟩
    postgres.compile "t" p = .ok c ∧ (∃ d ∈ c.sql, Text.isAscii d = false) ∧
      (∃ q, Query.ofParams p = .ok q ∧ .expression text ∈ q.projection) ∧
      text = "\u017Fum".toList ++ '(' :: "\u00A0id) a\u017F n".toList ∧ '(' ∉ "\u017Fum".toList ∧
      Text.lower "\u017Fum" ∉ (["count", "sum", "avg", "min", "max"] : List Text) ∧
      Text.LastWords text "a\u017F" "n" ∧ isName "n" = true ∧
      Text.lower "a\u017F" ≠ "as".toList := by
  intro text p c
  have compiled : postgres.compile "t" p = .ok c := by decide +kernel
  have accepted : Query.refusal? p = none := by decide +kernel
  have shown : ∃ q, Query.ofParams p = .ok q ∧ .expression text ∈ q.projection :=
    ⟨_, Query.ofParams_eq_ok_iff.2 ⟨accepted, rfl⟩, by decide +kernel⟩
  have words : Text.LastWords text "a\u017F" "n" :=
    ⟨⟨"\u017Fum(\u00A0id)", [], ' ', ' ', rfl, rfl, List.forall_mem_nil _, rfl⟩,
      ⟨by decide, Text.isBlank_eq_false_of_any rfl⟩, by decide, Text.isBlank_eq_false_of_any rfl⟩
  exact ⟨compiled, ⟨'\u00A0', by decide +kernel, rfl⟩, shown, by decide +kernel, by decide,
    by decide, words, by decide, by decide⟩

end FilterSql
