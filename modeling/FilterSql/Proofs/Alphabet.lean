/-
# FilterSql.Proofs.Alphabet -- the characters that stand unquoted in SQL text

Identifiers and select expressions are the only texts from outside that get into a statement. This
module says of which characters they consist: an identifier of names and dots, an expression of the
same with blanks, stars, commas, parentheses, and one letter outside ASCII, the long s, which folds
to an s. Whatever is no such character, a question mark or a quotation mark among others, never
comes into a statement from outside.
-/

import Mathlib.Data.List.TakeWhile
import FilterSql.Expression
import FilterSql.Proofs.Text.Cuts

namespace FilterSql

/-! ## Texts cut and joined -/

/-- A character of a joined text is one of the separator or of a part. -/
theorem Text.mem_or_mem_of_mem_intercalate {c : Char} {separator : Text} {parts : List Text}
    (h : c ∈ separator.intercalate parts) : c ∈ separator ∨ ∃ part ∈ parts, c ∈ part := by
  induction parts with
  | nil => simp at h
  | cons part rest ih =>
    cases rest with
    | nil => exact .inr ⟨part, by simp, by simpa using h⟩
    | cons next rest =>
      rw [List.intercalate_cons_cons, List.mem_append, List.mem_append] at h
      rcases h with (h | h) | h
      · exact .inr ⟨part, by simp, h⟩
      · exact .inl h
      · rcases ih h with h | ⟨p, hp, h⟩
        · exact .inl h
        · exact .inr ⟨p, List.mem_cons_of_mem part hp, h⟩

theorem Text.mem_intercalate_of_mem {c : Char} {separator part : Text} {parts : List Text}
    (hp : part ∈ parts) (hc : c ∈ part) : c ∈ separator.intercalate parts := by
  induction parts with
  | nil => cases hp
  | cons first rest ih =>
    cases rest with
    | nil =>
      rw [List.intercalate_singleton]
      exact List.mem_singleton.1 hp ▸ hc
    | cons next rest =>
      rw [List.intercalate_cons_cons, List.mem_append, List.mem_append]
      rcases List.mem_cons.1 hp with rfl | hp
      · exact .inl (.inl hc)
      · exact .inr (ih hp)

theorem Text.mem_of_mem_splitOn {c mark : Char} {s piece : Text} (hp : piece ∈ s.splitOn mark)
    (hc : c ∈ piece) : c ∈ s := by
  rw [← (List.intercalate_splitOn mark : [mark].intercalate (s.splitOn mark) = s)]
  exact mem_intercalate_of_mem hp hc

/-- A character of a text is the mark that it is cut at or belongs to a piece. -/
theorem Text.eq_or_mem_of_mem_splitOn (mark : Char) {c : Char} {s : Text} (h : c ∈ s) :
    c = mark ∨ ∃ piece ∈ s.splitOn mark, c ∈ piece := by
  rw [← (List.intercalate_splitOn mark : [mark].intercalate (s.splitOn mark) = s)] at h
  rcases mem_or_mem_of_mem_intercalate h with h | h
  · exact .inl (List.mem_singleton.1 h)
  · exact .inr h

/-! ## Identifiers -/

theorem isNameChar_of_isName {s : Text} (h : isName s = true) : ∀ c ∈ s, isNameChar c = true := by
  cases s with
  | nil => simp
  | cons first rest =>
    simp only [isName, Bool.and_eq_true, List.all_eq_true] at h
    intro c hc
    rcases List.mem_cons.1 hc with rfl | hc
    · exact isNameChar_of_isNameStart h.1
    · exact h.2 c hc

theorem not_mem_of_isName {c : Char} {s : Text} (hc : isNameChar c = false)
    (h : isName s = true) : c ∉ s := by
  intro mem
  rw [isNameChar_of_isName h c mem] at hc
  cases hc

theorem isBlank_eq_false_of_isNameChar {c : Char} (h : isNameChar c = true) :
    Text.isBlank c = false := by
  unfold isNameChar Char.isAlphanum Char.isAlpha Char.isUpper Char.isLower at h
  simp only [Char.isDigit, Bool.or_eq_true, Bool.and_eq_true, decide_eq_true_eq,
    UInt32.le_iff_toNat_le, ge_iff_le] at h
  simp only [Text.isBlank, Bool.or_eq_false_iff, Bool.and_eq_false_iff, decide_eq_false_iff_not,
    beq_eq_false_iff_ne]
  rcases h with ((⟨low, high⟩ | ⟨low, high⟩) | ⟨low, high⟩) | rfl
  · have low : 65 ≤ c.toNat := low
    have high : c.toNat ≤ 90 := high
    omega
  · have low : 97 ≤ c.toNat := low
    have high : c.toNat ≤ 122 := high
    omega
  · have low : 48 ≤ c.toNat := low
    have high : c.toNat ≤ 57 := high
    omega
  · decide

theorem isBlank_eq_false_of_isName {name : Text} (h : isName name = true) :
    ∀ c ∈ name, Text.isBlank c = false := fun c hc =>
  isBlank_eq_false_of_isNameChar (isNameChar_of_isName h c hc)

/-- An identifier is one or more names with dots between them. -/
theorem isIdentifier_iff {s : Text} :
    isIdentifier s = true ↔
      ∃ names : List Text, names ≠ [] ∧ (∀ name ∈ names, isName name = true) ∧
        s = ['.'].intercalate names := by
  constructor
  · intro h
    exact ⟨s.splitOn '.', List.splitOn_ne_nil _ _, List.all_eq_true.1 h,
      (List.intercalate_splitOn '.').symm⟩
  · rintro ⟨names, ne, all, rfl⟩
    -- No name has a dot in it, so the cuts are where the names were joined.
    have undotted : ∀ name ∈ names, '.' ∉ name := fun name hn =>
      not_mem_of_isName (by decide) (all name hn)
    rw [isIdentifier, List.splitOn_intercalate '.' undotted ne]
    exact List.all_eq_true.2 all

theorem isNameChar_of_isIdentifier {s : Text} (h : isIdentifier s = true) :
    ∀ c ∈ s, isNameChar c = true ∨ c = '.' := by
  intro c hc
  rcases Text.eq_or_mem_of_mem_splitOn '.' hc with dot | ⟨piece, hp, hc⟩
  · exact .inr dot
  · exact .inl (isNameChar_of_isName (List.all_eq_true.1 h piece hp) c hc)

theorem not_mem_of_isIdentifier {c : Char} {s : Text}
    (hc : isNameChar c = false ∧ c ≠ '.') (h : isIdentifier s = true) : c ∉ s := by
  intro mem
  rcases isNameChar_of_isIdentifier h c mem with name | dot
  · rw [hc.1] at name
    cases name
  · exact hc.2 dot

theorem isTrimmed_of_isIdentifier {s : Text} (h : isIdentifier s = true) :
    Text.IsTrimmed s ∧ s ≠ [] := by
  have solid : ∀ c ∈ s, Text.isBlank c = false := by
    intro c hc
    rcases isNameChar_of_isIdentifier h c hc with name | rfl
    · exact isBlank_eq_false_of_isNameChar name
    · decide
  refine ⟨⟨fun c hc => solid c (List.mem_of_mem_head? hc), fun c hc =>
    solid c (List.mem_of_mem_getLast? hc)⟩, ?_⟩
  rintro rfl
  cases h

/-- An identifier without a dot is a name. -/
theorem isName_of_isIdentifier {s : Text} (h : isIdentifier s = true) (undotted : '.' ∉ s) :
    isName s = true := by
  have whole : s.splitOn '.' = [s] := by
    have single := List.splitOn_intercalate '.' (List.forall_mem_singleton.2 undotted) (by simp)
    rwa [List.intercalate_singleton] at single
  rw [isIdentifier, whole] at h
  simpa using h

/-! ## Expressions -/

/-- May the character stand in an expression? -/
def isExpressionChar (c : Char) : Bool :=
  isNameChar c || Text.isBlank c || ['.', '*', ',', '(', ')', '\u017F'].contains c

/-- May the character stand in an expression between its commas and parentheses? -/
def isPartChar (c : Char) : Bool :=
  isNameChar c || Text.isBlank c || ['.', '*', '\u017F'].contains c

theorem isPartChar_of_isNameChar {c : Char} (h : isNameChar c = true) : isPartChar c = true := by
  simp [isPartChar, h]

theorem isPartChar_of_isBlank {c : Char} (h : Text.isBlank c = true) : isPartChar c = true := by
  simp [isPartChar, h]

theorem isExpressionChar_of_isPartChar {c : Char} (h : isPartChar c = true) :
    isExpressionChar c = true := by
  simp only [isPartChar, Bool.or_eq_true, List.contains_iff_mem] at h
  simp only [isExpressionChar, Bool.or_eq_true, List.contains_iff_mem]
  have wider : ['.', '*', '\u017F'] ⊆ ['.', '*', ',', '(', ')', '\u017F'] := by decide
  exact h.imp_right fun mem => wider mem

theorem isExpressionChar_of_isNameChar {c : Char} (h : isNameChar c = true) :
    isExpressionChar c = true := isExpressionChar_of_isPartChar (isPartChar_of_isNameChar h)

theorem isExpressionChar_of_isBlank {c : Char} (h : Text.isBlank c = true) :
    isExpressionChar c = true := isExpressionChar_of_isPartChar (isPartChar_of_isBlank h)

theorem isPartChar_of_isIdentifier {s : Text} (h : isIdentifier s = true) :
    ∀ c ∈ s, isPartChar c = true := by
  intro c hc
  rcases isNameChar_of_isIdentifier h c hc with name | rfl
  · exact isPartChar_of_isNameChar name
  · decide

theorem isExpressionChar_of_isIdentifier {s : Text} (h : isIdentifier s = true) :
    ∀ c ∈ s, isExpressionChar c = true := fun c hc =>
  isExpressionChar_of_isPartChar (isPartChar_of_isIdentifier h c hc)

namespace Expression

/-- Only ASCII letters and the long s fold to a small letter other than k. -/
theorem isAlpha_or_eq_of_foldCase {c : Char} (small : (foldCase c).isLower = true)
    (other : foldCase c ≠ 'k') : c.isAlpha = true ∨ c = '\u017F' := by
  unfold foldCase at small other
  split at small
  · next long => exact .inr long
  · next long =>
    rw [if_neg long] at other
    split at small
    · next kelvin => exact absurd (if_pos kelvin) other
    · -- Beyond the two exceptions folding changes capital ASCII letters only.
      left
      by_cases capital : c.isUpper = true
      · exact Bool.or_eq_true_iff.2 (.inl capital)
      · have same : c.toLower = c := dif_neg fun h => capital (decide_eq_true h)
        rw [same] at small
        exact Bool.or_eq_true_iff.2 (.inr small)

/-- A text that folds to small letters other than k is written in ASCII letters and long s. -/
theorem isAlpha_or_eq_of_fold {s word : Text} (fold : s.map foldCase = word)
    (letters : word.all (fun d => d.isLower && d != 'k') = true) :
    ∀ c ∈ s, c.isAlpha = true ∨ c = '\u017F' := by
  intro c hc
  have h := List.all_eq_true.1 letters (foldCase c) (fold ▸ List.mem_map_of_mem hc)
  rw [Bool.and_eq_true, bne_iff_ne] at h
  exact isAlpha_or_eq_of_foldCase h.1 h.2

theorem isPartChar_of_fold {s word : Text} (fold : s.map foldCase = word)
    (letters : word.all (fun d => d.isLower && d != 'k') = true) :
    ∀ c ∈ s, isPartChar c = true := by
  intro c hc
  rcases isAlpha_or_eq_of_fold fold letters c hc with alpha | rfl
  · exact isPartChar_of_isNameChar (by simp [isNameChar, Char.isAlphanum, alpha])
  · decide

theorem isPartChar_of_isAggregate {s : Text} (h : isAggregate s = true) :
    ∀ c ∈ s, isPartChar c = true := by
  have letters : aggregates.all (fun word => word.all fun d => d.isLower && d != 'k') = true := by
    decide
  rw [isAggregate, List.contains_iff_mem] at h
  exact isPartChar_of_fold rfl (List.all_eq_true.1 letters _ h)

/-- What starts with a blank starts with all blanks up to the first solid character. -/
theorem exists_of_startsBlank {s : Text} (h : startsBlank s = true) :
    ∃ blanks, blanks ≠ [] ∧ Text.Blank blanks ∧ s = blanks ++ Text.trimStart s := by
  refine ⟨s.takeWhile Text.isBlank, ?_, List.all_eq_true.1 List.all_takeWhile,
    List.takeWhile_append_dropWhile.symm⟩
  cases s with
  | nil => cases h
  | cons c rest =>
    have blank : Text.isBlank c = true := h
    rw [List.takeWhile_cons_of_pos blank]
    exact List.cons_ne_nil _ _

theorem startsBlank_append {blanks : Text} (ne : blanks ≠ []) (h : Text.Blank blanks) (s : Text) :
    startsBlank (blanks ++ s) = true := by
  cases blanks with
  | nil => exact absurd rfl ne
  | cons c rest => exact h c (by simp)

/-- The keyword is two characters, and none of them is blank. -/
theorem keyword_solid {keyword : Text} (h : keyword.map foldCase = "as".toList) :
    keyword.length = 2 ∧ ∀ c ∈ keyword, Text.isBlank c = false := by
  refine ⟨by simpa using congrArg List.length h, fun c hc => ?_⟩
  rcases isAlpha_or_eq_of_fold h (by decide) c hc with alpha | rfl
  · exact isBlank_eq_false_of_isNameChar (by simp [isNameChar, Char.isAlphanum, alpha])
  · decide

/-- An alias is blanks, the keyword, blanks and a name. -/
theorem isAlias_iff {s : Text} :
    isAlias s = true ↔ ∃ before keyword after name : Text,
      s = before ++ (keyword ++ (after ++ name)) ∧ (before ≠ [] ∧ Text.Blank before) ∧
        keyword.map foldCase = "as".toList ∧ (after ≠ [] ∧ Text.Blank after) ∧
        isName name = true := by
  simp only [isAlias, Bool.and_eq_true, decide_eq_true_eq]
  constructor
  · rintro ⟨⟨⟨starts, fold⟩, gapped⟩, named⟩
    obtain ⟨before, filled, blank, whole⟩ := exists_of_startsBlank starts
    obtain ⟨after, filled', blank', behind⟩ := exists_of_startsBlank gapped
    refine ⟨before, (Text.trimStart s).take 2, after, _, ?_, ⟨filled, blank⟩, fold,
      ⟨filled', blank'⟩, named⟩
    rw [← behind, List.take_append_drop]
    exact whole
  · rintro ⟨before, keyword, after, name, rfl, ⟨filled, blank⟩, fold, ⟨filled', blank'⟩, named⟩
    obtain ⟨two, solid⟩ := keyword_solid fold
    have first : Text.trimStart (before ++ (keyword ++ (after ++ name))) =
        keyword ++ (after ++ name) := by
      refine Text.trimStart_append_of_head blank fun c hc => ?_
      obtain ⟨d, rest, rfl⟩ := List.exists_cons_of_length_pos (by omega : 0 < keyword.length)
      cases hc
      exact solid c (by simp)
    have second : Text.trimStart (after ++ name) = name :=
      Text.trimStart_append_of_head blank' fun c hc =>
        isBlank_eq_false_of_isName named c (List.mem_of_mem_head? hc)
    rw [first, List.take_left' two, List.drop_left' two, second]
    exact ⟨⟨⟨startsBlank_append filled blank _, fold⟩,
      startsBlank_append filled' blank' _⟩, named⟩

theorem isPartChar_of_isTail {s : Text} (h : isTail s = true) : ∀ c ∈ s, isPartChar c = true := by
  rw [isTail, Bool.or_eq_true, List.isEmpty_iff] at h
  rcases h with rfl | renamed
  · simp
  · obtain ⟨before, keyword, after, name, rfl, ⟨-, blank⟩, fold, ⟨-, blank'⟩, named⟩ :=
      isAlias_iff.1 renamed
    intro c hc
    simp only [List.mem_append] at hc
    rcases hc with hc | hc | hc | hc
    · exact isPartChar_of_isBlank (blank c hc)
    · exact isPartChar_of_fold fold (by decide) c hc
    · exact isPartChar_of_isBlank (blank' c hc)
    · exact isPartChar_of_isNameChar (isNameChar_of_isName named c hc)

theorem isPartChar_of_isColumn {s : Text} (h : isColumn s = true) :
    ∀ c ∈ s, isPartChar c = true := by
  simp only [isColumn, Bool.and_eq_true] at h
  intro c hc
  rw [← List.takeWhile_append_dropWhile (p := fun c => isNameChar c || c = '.') (l := s),
    List.mem_append] at hc
  rcases hc with hc | hc
  · exact isPartChar_of_isIdentifier h.1 c hc
  · exact isPartChar_of_isTail h.2 c hc

theorem isPartChar_of_isArgument {s : Text} (h : isArgument (Text.trim s) = true) :
    ∀ c ∈ s, isPartChar c = true := by
  obtain ⟨before, after, whole, blankBefore, blankAfter⟩ := Text.exists_eq_append_trim s
  intro c hc
  rw [whole, List.mem_append, List.mem_append] at hc
  rcases hc with (hc | hc) | hc
  · exact isPartChar_of_isBlank (blankBefore c hc)
  · simp only [isArgument, Bool.or_eq_true, decide_eq_true_eq] at h
    rcases h with star | identifier
    · rw [star, List.mem_singleton] at hc
      subst hc
      decide
    · exact isPartChar_of_isIdentifier identifier c hc
  · exact isPartChar_of_isBlank (blankAfter c hc)

/-- A call is an aggregate with a parenthesis behind it, in which its arguments stand, and a
tail. -/
theorem cases_of_isCall {s : Text} (h : isCall s = true) :
    ∃ name arguments tail : Text, s = name ++ '(' :: (arguments ++ [')']) ++ tail ∧ '(' ∉ name ∧
      isAggregate name = true ∧
      (∀ piece ∈ arguments.splitOn ',', isArgument (Text.trim piece) = true) ∧
      isTail tail = true := by
  unfold isCall at h
  split at h
  · cases h
  · next name afterOpening opened =>
    split at h
    · cases h
    · next arguments tail closed =>
      simp only [Bool.and_eq_true, List.all_eq_true, Function.comp_apply] at h
      obtain ⟨⟨aggregate, inside⟩, rename⟩ := h
      refine ⟨name, arguments, tail, ?_, not_mem_of_cut? opened, aggregate, inside, rename⟩
      rw [eq_append_of_cut? opened, eq_append_of_cut? closed]
      simp

/-- A call is an aggregate, its arguments between parentheses with commas between them, and a tail.
None of these parts has a comma or a parenthesis in it. -/
theorem exists_of_isCall {s : Text} (h : isCall s = true) :
    ∃ (name : Text) (arguments : List Text) (tail : Text),
      s = name ++ ('(' :: ([','].intercalate arguments ++ [')'])) ++ tail ∧
        ∀ part ∈ name :: tail :: arguments, ∀ c ∈ part, isPartChar c = true := by
  obtain ⟨name, arguments, tail, whole, -, aggregate, inside, rename⟩ := cases_of_isCall h
  refine ⟨name, arguments.splitOn ',', tail, ?_, ?_⟩
  · rw [List.intercalate_splitOn]
    exact whole
  · rw [List.forall_mem_cons, List.forall_mem_cons]
    exact ⟨isPartChar_of_isAggregate aggregate, isPartChar_of_isTail rename, fun piece hp =>
      isPartChar_of_isArgument (inside piece hp)⟩

theorem isExpressionChar_of_isCall {s : Text} (h : isCall s = true) :
    ∀ c ∈ s, isExpressionChar c = true := by
  obtain ⟨name, arguments, tail, rfl, parts⟩ := exists_of_isCall h
  have part : ∀ p ∈ name :: tail :: arguments, ∀ c ∈ p, isExpressionChar c = true :=
    fun p hp c hc => isExpressionChar_of_isPartChar (parts p hp c hc)
  intro c hc
  simp only [List.mem_append, List.mem_cons, List.not_mem_nil, or_false] at hc
  rcases hc with (hc | rfl | hc | rfl) | hc
  · exact part name (by simp) c hc
  · decide
  · rcases Text.mem_or_mem_of_mem_intercalate hc with comma | ⟨argument, mem, hc⟩
    · rw [List.mem_singleton.1 comma]
      decide
    · exact part argument (by simp [mem]) c hc
  · decide
  · exact part tail (by simp) c hc

end Expression

/-- An identifier is an expression. -/
theorem isExpression_of_isIdentifier {name : Text} (h : isIdentifier name = true) :
    isExpression name = true := by
  have goOn : ∀ c ∈ name, (isNameChar c || c = '.') = true := fun c hc => by
    rcases isNameChar_of_isIdentifier h c hc with named | dot
    · simp [named]
    · simp [dot]
  have front : name.takeWhile (fun c => isNameChar c || c = '.') = name :=
    List.takeWhile_eq_self_iff.2 goOn
  have back : name.dropWhile (fun c => isNameChar c || c = '.') = [] :=
    List.dropWhile_eq_nil_iff.2 goOn
  rw [isExpression, Text.trim_eq_self_iff.2 (isTrimmed_of_isIdentifier h).1, Expression.isColumn,
    front, back, h]
  rfl

/-- Every character of an expression is one that may stand in an expression. -/
theorem isExpressionChar_of_isExpression {s : Text} (h : isExpression s = true) :
    ∀ c ∈ s, isExpressionChar c = true := by
  obtain ⟨before, after, whole, blankBefore, blankAfter⟩ := Text.exists_eq_append_trim s
  intro c hc
  rw [whole, List.mem_append, List.mem_append] at hc
  rcases hc with (hc | hc) | hc
  · exact isExpressionChar_of_isBlank (blankBefore c hc)
  · simp only [isExpression, Bool.or_eq_true] at h
    rcases h with column | call
    · exact isExpressionChar_of_isPartChar (Expression.isPartChar_of_isColumn column c hc)
    · exact Expression.isExpressionChar_of_isCall call c hc
  · exact isExpressionChar_of_isBlank (blankAfter c hc)

end FilterSql
