/-
# FilterSql.Proofs.Query.SelectList -- which entries of a select list are accepted

Two readers answer the same question about an entry of the select list. `isPassthrough` decides
whether it is to be written as it stands: it looks for a dot, for a parenthesis and for the alias
keyword in small or capital letters between two spaces. `isExpression` decides whether it may be: it
reads the entry from one end to the other, and takes blanks of every kind around a keyword whose
letters need only fold to the right ones.

The second reader accepts more aliases than the first one sees. An aliased column without a dot that
is no expression to the first is taken for a plain column, and refused as that. Nothing else comes
between the two: an entry is accepted exactly when it is an expression and not an aliased column of
that kind.
-/

import FilterSql.Proofs.Query.Accepted
import FilterSql.Proofs.Query.Writing

namespace FilterSql

/-! ## Aliased columns -/

/-- A column with an alias, part by part. -/
structure AliasedColumn where
  /-- The column. -/
  column : Text
  /-- The blanks before the keyword. -/
  before : Text
  /-- The keyword. -/
  keyword : Text
  /-- The blanks behind the keyword. -/
  after : Text
  /-- The new name. -/
  name : Text

namespace AliasedColumn

/-- The alias without the column. -/
def aliasText (a : AliasedColumn) : Text := a.before ++ (a.keyword ++ (a.after ++ a.name))

/-- The text as it stands in a select list. -/
def text (a : AliasedColumn) : Text := a.column ++ a.aliasText

/-- The column has no dot, blanks surround the keyword, and its letters fold to those of the
keyword. -/
structure WellFormed (a : AliasedColumn) : Prop where
  /-- The column is a name. -/
  column : isName a.column = true
  /-- There are blanks before the keyword. -/
  before : a.before ≠ [] ∧ Text.Blank a.before
  /-- The keyword, in whatever case. -/
  keyword : a.keyword.map Expression.foldCase = "as".toList
  /-- There are blanks behind the keyword. -/
  after : a.after ≠ [] ∧ Text.Blank a.after
  /-- The new name is one. -/
  name : isName a.name = true

/-- The keyword is written in ASCII letters and stands between two spaces. -/
def Spaced (a : AliasedColumn) : Prop :=
  a.before.getLast? = some ' ' ∧ Text.lower a.keyword = "as".toList ∧ a.after.head? = some ' '

instance (a : AliasedColumn) : Decidable a.Spaced :=
  inferInstanceAs (Decidable (_ ∧ _ ∧ _))

end AliasedColumn

/-! ## Looking for the keyword between two spaces -/

/-- Only characters of names have a letter case. -/
theorem toLower_eq_self {c : Char} (h : isNameChar c = false) : c.toLower = c := by
  refine dif_neg fun capital => ?_
  have upper : c.isUpper = true := decide_eq_true capital
  have alpha : c.isAlpha = true := Bool.or_eq_true_iff.2 (.inl upper)
  rw [isNameChar, Char.isAlphanum, alpha] at h
  cases h

theorem toLower_of_isBlank {c : Char} (h : Text.isBlank c = true) : c.toLower = c := by
  refine toLower_eq_self (Bool.eq_false_iff.2 fun named => ?_)
  rw [isBlank_eq_false_of_isNameChar named] at h
  cases h

theorem eq_space_of_toLower {c : Char} (h : c.toLower = ' ') : c = ' ' := by
  by_cases named : isNameChar c = true
  · exact absurd h (Projection.toLower_ne_space named)
  · rwa [toLower_eq_self (Bool.eq_false_iff.2 named)] at h

namespace AliasedColumn

variable {a : AliasedColumn}

/-- The only words between blanks of an aliased column are the column, the keyword and the name. So
what stands there between two spaces is the keyword. -/
theorem eq_keyword_of_text_eq (h : a.WellFormed) {x w y : Text} (filled : w ≠ [])
    (solid : ∀ c ∈ w, Text.isBlank c = false) (same : a.text = x ++ ' ' :: (w ++ ' ' :: y)) :
    a.before.getLast? = some ' ' ∧ a.keyword = w ∧ a.after.head? = some ' ' := by
  let isSolid : Char → Bool := fun c => !Text.isBlank c
  have space : isSolid ' ' = false := by decide
  have ofName : ∀ {name : Text}, isName name = true → ∀ c ∈ name, isSolid c = true :=
    fun valid c hc => by simp [isSolid, isBlank_eq_false_of_isName valid c hc]
  have keywordSolid : ∀ c ∈ a.keyword, isSolid c = true := fun c hc => by
    simp [isSolid, (Expression.keyword_solid h.keyword).2 c hc]
  have wordSolid : ∀ c ∈ w, isSolid c = true := fun c hc => by simp [isSolid, solid c hc]
  obtain ⟨d, rest, rfl⟩ := List.exists_cons_of_ne_nil filled
  have dSolid : Text.isBlank d = false := solid d (by simp)
  -- The first space is behind the column, the second one before the name.
  obtain ⟨x', rfl, renamed⟩ := exists_append_of_forall (ofName h.column) space same
  have split : a.before ++ (a.keyword ++ a.after) ++ a.name =
      (x' ++ ' ' :: (d :: rest)) ++ ' ' :: y := by
    simpa [aliasText] using renamed
  obtain ⟨y', rfl, middle⟩ := exists_append_of_forall_right (ofName h.name) space split
  -- The word starts behind the blanks before the keyword.
  have word : a.before ++ (a.keyword ++ a.after) = (x' ++ [' ']) ++ d :: (rest ++ ' ' :: y') := by
    simpa using middle
  obtain ⟨x'', front, behind⟩ := exists_append_of_forall h.before.2 dSolid word
  rcases List.eq_nil_or_concat' x'' with rfl | ⟨init, c, rfl⟩
  · rw [List.append_nil] at front
    obtain ⟨g, gap, after⟩ := List.exists_cons_of_ne_nil h.after.1
    have blank : isSolid g = false := by
      simp [isSolid, h.after.2 g (by simp [after])]
    rw [after] at behind
    obtain ⟨keyword, rfl, -⟩ := append_cons_inj keywordSolid wordSolid blank space behind
    exact ⟨by rw [← front]; simp, keyword, by rw [after]; rfl⟩
  · -- Otherwise a space would be behind the keyword, and the word among the blanks behind it.
    have last : c = ' ' := by
      have ends := congrArg List.getLast? front
      rw [← List.append_assoc] at ends
      simpa using ends.symm
    subst last
    rw [List.append_assoc] at behind
    obtain ⟨z, -, after⟩ := exists_append_of_forall keywordSolid space behind
    have blank := h.after.2 d (by rw [after]; simp)
    rw [blank] at dSolid
    cases dSolid

/-- The keyword is found between two spaces when it stands there in ASCII letters. -/
theorem mentions_iff (h : a.WellFormed) :
    Text.mentions " as " (Text.lower a.text) = true ↔ a.Spaced := by
  have ne : " as ".toList ≠ [] := by decide
  rw [Text.mentions, isSome_cut?_iff ne]
  constructor
  · rintro ⟨before, after, whole⟩
    have spelled : a.text.map Char.toLower = before ++ ' ' :: 'a' :: 's' :: ' ' :: after := by
      rw [← Text.lower, ← whole, List.append_assoc]
      rfl
    obtain ⟨x, t, whole, -, found⟩ := List.map_eq_append_iff.1 spelled
    obtain ⟨c₁, t, rfl, first, found⟩ := List.map_eq_cons_iff.1 found
    obtain ⟨c₂, t, rfl, letterA, found⟩ := List.map_eq_cons_iff.1 found
    obtain ⟨c₃, t, rfl, letterS, found⟩ := List.map_eq_cons_iff.1 found
    obtain ⟨c₄, y, rfl, second, -⟩ := List.map_eq_cons_iff.1 found
    obtain rfl := eq_space_of_toLower first
    obtain rfl := eq_space_of_toLower second
    have solid : ∀ c ∈ [c₂, c₃], Text.isBlank c = false := by
      intro c hc
      rw [Bool.eq_false_iff]
      intro blank
      have same := toLower_of_isBlank blank
      rcases List.mem_pair.1 hc with rfl | rfl
      · rw [← same, letterA] at blank
        cases blank
      · rw [← same, letterS] at blank
        cases blank
    obtain ⟨space, keyword, space'⟩ := eq_keyword_of_text_eq h (by simp) solid whole
    exact ⟨space, by rw [keyword]; simp [Text.lower, letterA, letterS], space'⟩
  · rintro ⟨space, keyword, space'⟩
    obtain ⟨b, before⟩ := List.getLast?_eq_some_iff.1 space
    obtain ⟨g, after⟩ := List.head?_eq_some_iff.1 space'
    refine ⟨Text.lower (a.column ++ b), Text.lower (g ++ a.name), ?_⟩
    have whole : a.text = (a.column ++ b) ++ ' ' :: (a.keyword ++ ' ' :: (g ++ a.name)) := by
      rw [text, aliasText, before, after]
      simp
    rw [Text.lower] at keyword
    rw [whole]
    simp only [Text.lower, List.map_append, List.map_cons, keyword, List.append_assoc]
    rfl

/-- An aliased column is made of names, blanks and the keyword. -/
theorem cases_of_mem_text (h : a.WellFormed) {c : Char} (mem : c ∈ a.text) :
    isNameChar c = true ∨ Text.isBlank c = true ∨ c = '\u017F' := by
  simp only [text, aliasText, List.mem_append] at mem
  rcases mem with mem | mem | mem | mem | mem
  · exact .inl (isNameChar_of_isName h.column c mem)
  · exact .inr (.inl (h.before.2 c mem))
  · rcases Expression.isAlpha_or_eq_of_fold h.keyword (by decide) c mem with alpha | long
    · exact .inl (by simp [isNameChar, Char.isAlphanum, alpha])
    · exact .inr (.inr long)
  · exact .inr (.inl (h.after.2 c mem))
  · exact .inl (isNameChar_of_isName h.name c mem)

/-- An aliased column is written as it stands when its keyword stands between two spaces. -/
theorem isPassthrough_iff (h : a.WellFormed) :
    Projection.isPassthrough a.text = true ↔ a.Spaced := by
  have absent : ∀ c ∈ ['.', '(', ')'], a.text.contains c = false := by
    intro c hc
    rw [List.contains_eq_mem, decide_eq_false_iff_not]
    intro mem
    have other : ∀ d ∈ ['.', '(', ')'],
        isNameChar d = false ∧ Text.isBlank d = false ∧ d ≠ '\u017F' := by
      simp only [List.forall_mem_cons, List.not_mem_nil, false_implies, implies_true, and_true]
      decide
    obtain ⟨unnamed, solid, short⟩ := other c hc
    rcases cases_of_mem_text h mem with named | blank | long
    · rw [unnamed] at named
      cases named
    · rw [solid] at blank
      cases blank
    · exact short long
  rw [Projection.isPassthrough, absent '.' (by simp), absent '(' (by simp), absent ')' (by simp)]
  exact mentions_iff h

theorem isTrimmed_text (h : a.WellFormed) : Text.IsTrimmed a.text := by
  have filled : ∀ {name : Text}, isName name = true → name ≠ [] := by
    rintro _ valid rfl
    cases valid
  have solid : ∀ {name : Text}, isName name = true → ∀ c ∈ name, Text.isBlank c = false :=
    fun valid => isBlank_eq_false_of_isName valid
  constructor
  · intro c hc
    rw [text, List.head?_append_of_ne_nil _ (filled h.column)] at hc
    exact solid h.column c (List.mem_of_mem_head? hc)
  · intro c hc
    have whole : a.text = (a.column ++ (a.before ++ (a.keyword ++ a.after))) ++ a.name := by
      simp [text, aliasText]
    rw [whole, List.getLast?_append_of_ne_nil _ (filled h.name)] at hc
    exact solid h.name c (List.mem_of_mem_getLast? hc)

/-- An aliased column is an expression, whatever blanks are around its keyword. -/
theorem isExpression_text (h : a.WellFormed) : isExpression a.text = true := by
  obtain ⟨b, blanks, before⟩ := List.exists_cons_of_ne_nil h.before.1
  have blank : Text.isBlank b = true := h.before.2 b (by simp [before])
  have stop : (isNameChar b || b = '.') = false := by
    rw [Bool.eq_false_iff]
    intro part
    rcases Bool.or_eq_true_iff.1 part with named | dot
    · rw [isBlank_eq_false_of_isNameChar named] at blank
      cases blank
    · rw [of_decide_eq_true dot] at blank
      cases blank
  have goOn : ∀ c ∈ a.column, (isNameChar c || c = '.') = true := fun c hc => by
    simp [isNameChar_of_isName h.column c hc]
  have start : a.aliasText = b :: (blanks ++ (a.keyword ++ (a.after ++ a.name))) := by
    rw [aliasText, before]
    rfl
  have front : a.text.takeWhile (fun c => isNameChar c || c = '.') = a.column := by
    rw [text, start, List.takeWhile_append_of_pos goOn, List.takeWhile_cons_of_neg (by simp [stop]),
      List.append_nil]
  have back : a.text.dropWhile (fun c => isNameChar c || c = '.') = a.aliasText := by
    rw [text, start, List.dropWhile_append_of_pos goOn, List.dropWhile_cons_of_neg (by simp [stop])]
  have identifier : isIdentifier a.column = true :=
    isIdentifier_iff.2 ⟨[a.column], by simp, by simpa using h.column, by simp⟩
  have renamed : Expression.isAlias a.aliasText = true :=
    Expression.isAlias_iff.2 ⟨a.before, a.keyword, a.after, a.name, rfl, h.before, h.keyword,
      h.after, h.name⟩
  rw [isExpression, Text.trim_eq_self_iff.2 (isTrimmed_text h), Bool.or_eq_true]
  left
  rw [Expression.isColumn, front, back, identifier, Expression.isTail, renamed]
  simp

end AliasedColumn

/-! ## Entries of the select list -/

namespace Projection

/-- The entry is an aliased column of which the first reader does not see the keyword. -/
def Overlooked (piece : Text) : Prop :=
  ∃ a : AliasedColumn, a.WellFormed ∧ piece = a.text ∧ ¬ a.Spaced

/-- An expression that is not written as it stands is a name or an aliased column without a dot. -/
theorem cases_of_isExpression {piece : Text} (trimmed : Text.IsTrimmed piece)
    (h : isExpression piece = true) :
    isPassthrough piece = true ∨ isIdentifier piece = true ∧ '.' ∉ piece ∨ Overlooked piece := by
  by_cases passthrough : isPassthrough piece = true
  · exact .inl passthrough
  · right
    rw [isExpression, Text.trim_eq_self_iff.2 trimmed, Bool.or_eq_true] at h
    have missing : '.' ∉ piece ∧ '(' ∉ piece := by
      simp only [isPassthrough, Bool.or_eq_true, not_or, List.contains_iff_mem] at passthrough
      exact ⟨passthrough.1.1.1, passthrough.1.1.2⟩
    rcases h with column | call
    · have whole := List.takeWhile_append_dropWhile (p := fun c => isNameChar c || c = '.')
        (l := piece)
      rw [Expression.isColumn, Bool.and_eq_true] at column
      generalize piece.takeWhile (fun c => isNameChar c || c = '.') = front at whole column
      generalize piece.dropWhile (fun c => isNameChar c || c = '.') = back at whole column
      obtain ⟨identifier, tail⟩ := column
      rw [Expression.isTail, Bool.or_eq_true, List.isEmpty_iff] at tail
      rcases tail with rfl | renamed
      · rw [List.append_nil] at whole
        exact .inl ⟨whole ▸ identifier, missing.1⟩
      · obtain ⟨before, keyword, after, name, rfl, hb, hk, ha, hn⟩ :=
          Expression.isAlias_iff.1 renamed
        have undotted : '.' ∉ front := fun dot => missing.1 (whole ▸ List.mem_append_left _ dot)
        have valid : AliasedColumn.WellFormed ⟨front, before, keyword, after, name⟩ :=
          ⟨isName_of_isIdentifier identifier undotted, hb, hk, ha, hn⟩
        refine .inr ⟨⟨front, before, keyword, after, name⟩, valid, whole.symm, fun spaced => ?_⟩
        have seen := (AliasedColumn.isPassthrough_iff valid).2 spaced
        rw [AliasedColumn.text, AliasedColumn.aliasText, whole] at seen
        exact passthrough seen
    · obtain ⟨name, arguments, tail, rfl, -⟩ := Expression.cases_of_isCall call
      exact absurd (by simp) missing.2

/-- The entry is kept, as what it says. -/
def Kept (piece : Text) : Prop :=
  judge piece = .kept (.column piece) ∨ judge piece = .kept (.expression piece)

theorem Overlooked.isExpression {piece : Text} (h : Overlooked piece) :
    isExpression piece = true := by
  obtain ⟨a, valid, rfl, -⟩ := h
  exact AliasedColumn.isExpression_text valid

/-- The keyword of an overlooked alias stands between blanks, so the entry is no identifier. -/
theorem Overlooked.isIdentifier {piece : Text} (h : Overlooked piece) :
    isIdentifier piece = false := by
  obtain ⟨a, valid, rfl, -⟩ := h
  obtain ⟨b, blanks, before⟩ := List.exists_cons_of_ne_nil valid.before.1
  have blank : Text.isBlank b = true := valid.before.2 b (by simp [before])
  have mem : b ∈ a.text := by simp [AliasedColumn.text, AliasedColumn.aliasText, before]
  rw [Bool.eq_false_iff]
  intro identifier
  rcases isNameChar_of_isIdentifier identifier b mem with named | rfl
  · rw [isBlank_eq_false_of_isNameChar named] at blank
    cases blank
  · cases blank

/-- It is taken for a column and refused. -/
theorem Overlooked.judge {piece : Text} (h : Overlooked piece) :
    judge piece = .refused (.invalidIdentifier piece) := by
  have star : piece ≠ ['*'] := by
    rintro rfl
    have expression := h.isExpression
    exact absurd expression (by decide)
  have unnamed := h.isIdentifier
  obtain ⟨a, valid, rfl, unspaced⟩ := h
  rw [Projection.judge, if_neg star,
    if_neg fun seen => unspaced ((AliasedColumn.isPassthrough_iff valid).1 seen), checkIdentifier,
    unnamed]
  rfl

/-- Every other entry is kept exactly when it is an expression. -/
theorem kept_iff {piece : Text} (trimmed : Text.IsTrimmed piece) (other : piece ≠ ['*'])
    (seen : ¬ Overlooked piece) : Kept piece ↔ isExpression piece = true := by
  unfold Kept
  by_cases passthrough : isPassthrough piece = true
  · rw [judge, if_neg other, if_pos passthrough, checkExpression]
    by_cases expression : FilterSql.isExpression piece = true
    · simp [expression, Verdict.ofExcept, Verdict.map]
    · simp [expression, Verdict.ofExcept, Verdict.map]
  · rw [judge, if_neg other, if_neg passthrough, checkIdentifier]
    by_cases identifier : FilterSql.isIdentifier piece = true
    · simp [identifier, isExpression_of_isIdentifier identifier, Verdict.ofExcept, Verdict.map]
    · have none : FilterSql.isExpression piece ≠ true := fun expression => by
        rcases cases_of_isExpression trimmed expression with h | ⟨h, -⟩ | h
        · exact passthrough h
        · exact identifier h
        · exact seen h
      simp [identifier, none, Verdict.ofExcept, Verdict.map]

end Projection

namespace Query

/-- The query that asks for entries of the select list and nothing else. -/
def ofProjection (projection : List Projection) : Query where
  conditions := []
  joins := []
  projection := projection
  exclude := false
  window := ⟨none, none⟩
  order := none
  grouping := []
  having := []

/-- What a select list alone asks for. -/
theorem ofParams_select (value : Text) :
    ofParams (.ofPairs [("select", value)]) =
      match Verdict.refusalOf? ((Text.terms value).map Projection.judge) with
      | some e => .error e
      | none => .ok (ofProjection (Verdict.keptOf ((Text.terms value).map Projection.judge))) := by
  have verdicts : (Params.ofPairs [("select", value)]).projectionVerdicts =
      (Text.terms value).map Projection.judge := by
    rw [← List.append_nil (Text.terms value)]
    rfl
  have silent : ∀ stage ≠ Stage.projection,
      stage.refusal? (.ofPairs [("select", value)]) = none := by
    intro stage other
    cases stage with
    | projection => exact absurd rfl other
    | _ => rfl
  have only : Stage.projection.refusal? (.ofPairs [("select", value)]) =
      Verdict.refusalOf? ((Text.terms value).map Projection.judge) := by
    rw [Stage.refusal?, Stage.verdicts, Verdict.refusalOf?_map, verdicts]
  have query : kept (.ofPairs [("select", value)]) =
      ofProjection (Verdict.keptOf ((Text.terms value).map Projection.judge)) := by
    rw [← verdicts]
    rfl
  rw [ofParams, query, refusal?, Stage.all]
  simp only [List.findSome?_cons, List.findSome?_nil, silent .groups (by decide),
    silent .joins (by decide), silent .window (by decide), silent .order (by decide),
    silent .grouping (by decide), silent .having (by decide), silent .filters (by decide), only]
  cases Verdict.refusalOf? ((Text.terms value).map Projection.judge) <;> rfl

/-- An entry that cutting leaves whole is accepted, as a column or as it stands, exactly when it is
an expression, if and only if it is no overlooked alias. What is accepted is always an expression.
An overlooked alias is one as well, and refused for being no identifier. -/
theorem ofParams_select_iff {piece : Text} (trimmed : Text.IsTrimmed piece) (filled : piece ≠ [])
    (other : piece ≠ ['*']) (closed : Text.closedFrom 0 piece = true) :
    let read := ofParams (.ofPairs [("select", piece)])
    let accepted := read = .ok (ofProjection [.column piece]) ∨
      read = .ok (ofProjection [.expression piece])
    ((accepted ↔ isExpression piece = true) ↔ ¬ Projection.Overlooked piece) ∧
      (accepted → isExpression piece = true) ∧
      (Projection.Overlooked piece →
        isExpression piece = true ∧ read = .error (.invalidIdentifier piece)) := by
  intro read accepted
  have terms : Text.terms piece = [piece] := by
    have alone := Text.terms_intercalate (List.forall_mem_singleton.2 closed)
    rw [List.intercalate_singleton] at alone
    rw [alone]
    exact Text.nonblank_eq_self (List.forall_mem_singleton.2 ⟨trimmed, filled⟩)
  have outcome : read = match Projection.judge piece with
      | .kept entry => .ok (ofProjection [entry])
      | .skipped _ => .ok (ofProjection [])
      | .refused e => .error e := by
    unfold read
    rw [ofParams_select, terms, List.map_singleton]
    cases Projection.judge piece <;> rfl
  have accepted_iff : accepted ↔ Projection.Kept piece := by
    unfold accepted Projection.Kept
    rw [outcome]
    cases Projection.judge piece with
    | kept entry => simp [ofProjection]
    | skipped reason => simp [ofProjection]
    | refused e => simp
  refine ⟨⟨fun agree overlooked => ?_, fun seen =>
    accepted_iff.trans (Projection.kept_iff trimmed other seen)⟩, fun taken => ?_,
    fun overlooked => ⟨overlooked.isExpression, ?_⟩⟩
  · have kept := accepted_iff.1 (agree.2 overlooked.isExpression)
    rw [Projection.Kept, overlooked.judge] at kept
    rcases kept with h | h <;> cases h
  · by_cases overlooked : Projection.Overlooked piece
    · exact overlooked.isExpression
    · exact (Projection.kept_iff trimmed other overlooked).1 (accepted_iff.1 taken)
  · rw [outcome, overlooked.judge]

/-- Between spaces the keyword is seen in capital letters too, and between tabs it is overlooked. -/
theorem ofParams_select_iff_aliased :
    let spaced : Text := "total AS n"
    let tabbed : Text := "total\tAS\tn"
    (ofParams (.ofPairs [("select", spaced)]) = .ok (ofProjection [.expression spaced]) ∧
        isExpression spaced = true) ∧
      Projection.Overlooked tabbed ∧ isExpression tabbed = true ∧
      ofParams (.ofPairs [("select", tabbed)]) = .error (.invalidIdentifier tabbed) := by
  intro spaced tabbed
  have read : ofParams (.ofPairs [("select", spaced)]) = .ok (ofProjection [.expression spaced]) :=
    ofParams_eq_ok_iff.2 ⟨by decide +kernel, by decide +kernel⟩
  have overlooked : Projection.Overlooked tabbed :=
    ⟨⟨"total", "\t", "AS", "\t", "n"⟩,
      ⟨by decide, by decide, by decide, by decide, by decide⟩, by decide, by decide⟩
  obtain ⟨-, sound, -⟩ :=
    @ofParams_select_iff spaced (by decide) (by decide) (by decide) (by decide)
  obtain ⟨-, -, refused⟩ :=
    @ofParams_select_iff tabbed (by decide) (by decide) (by decide) (by decide)
  exact ⟨⟨read, sound (.inr read)⟩, overlooked, refused overlooked⟩

/-- The two readers disagree on a column with tabs around its alias keyword, and agree on it when it
is qualified. -/
theorem ofParams_select_tabs :
    let plain : Text := "total\tAS\tn"
    let qualified : Text := "users.total\tAS\tn"
    (isExpression plain = true ∧
        ofParams (.ofPairs [("select", plain)]) = .error (.invalidIdentifier plain)) ∧
      isExpression qualified = true ∧
        ofParams (.ofPairs [("select", qualified)]) =
          .ok (ofProjection [.expression qualified]) :=
  ⟨⟨by decide +kernel, ofParams_eq_error_iff.2 (by decide +kernel)⟩, by decide +kernel,
    ofParams_eq_ok_iff.2 ⟨by decide +kernel, by decide +kernel⟩⟩

end Query

end FilterSql
