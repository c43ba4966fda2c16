/-
# FilterSql.Proofs.Checks.Phrases -- the grammar of names and select expressions

The checkers of identifiers and expressions go through a text from one end to the other and decide
as they go. Here the texts that they accept are described by how they are put together: a path of
names, and a path or a call of an aggregate with an alias behind it or not. `isIdentifier_iff_path`
and `isExpression_iff_phrase` say that the checkers accept these texts and no others.

No text can be put together in a way that a checker overlooks: the characters of a path do not go on
into its alias, the name of an aggregate has no parenthesis in it, and its arguments have none.
Letter case is told by the characters that stand for a letter rather than by folding both sides.
-/

import FilterSql.Proofs.Statement.Grammar
import FilterSql.Proofs.Text.Padding

namespace FilterSql

namespace Grammar

/-! ## Letters in whatever case -/

/-- The characters that are a given small letter when letter case does not count. Beyond ASCII these
are the long s and the Kelvin sign. -/
inductive CaseOf (letter : Char) : Char → Prop where
  /-- The letter. -/
  | small : CaseOf letter letter
  /-- Its capital. -/
  | capital : CaseOf letter letter.toUpper
  /-- The long s is an s. -/
  | longS : letter = 's' → CaseOf letter '\u017F'
  /-- The Kelvin sign is a k. -/
  | kelvin : letter = 'k' → CaseOf letter '\u212A'

/-- A word of small letters in whatever case. -/
def Word (word : Text) : Text → Prop := List.Forall₂ CaseOf word

/-! ## Phrases -/

/-- Blanks, at least one. -/
def Gap (s : Text) : Prop := s ≠ [] ∧ Text.Blank s

/-- An argument of a call. -/
inductive Argument : Text → Prop where
  /-- All columns. -/
  | star : Argument ['*']
  /-- A column. -/
  | path {s : Text} : Path s → Argument s

/-- An argument with blanks around it. -/
def Spaced (s : Text) : Prop := ∃ argument, Argument argument ∧ Text.Padded argument s

/-- The arguments of a call. -/
def Arguments : Text → Prop := Chain [','] Spaced

/-- What an expression is about. -/
inductive Subject : Text → Prop where
  /-- A column. -/
  | column {path : Text} : Path path → Subject path
  /-- An aggregate, with its parenthesis directly behind its name. -/
  | call {word name arguments : Text} :
      word ∈ (["count", "sum", "avg", "min", "max"] : List Text) → Word word name →
      Arguments arguments → Subject (name ++ '(' :: (arguments ++ [')']))

/-- A select expression. -/
inductive Phrase : Text → Prop where
  /-- Without an alias. -/
  | plain {subject : Text} : Subject subject → Phrase subject
  /-- With an alias. -/
  | aliased {subject before keyword after name : Text} : Subject subject → Gap before →
      Word "as" keyword → Gap after → Name name →
      Phrase (subject ++ (before ++ (keyword ++ (after ++ name))))

/-! ## Chains -/

/-- A chain is its parts with the separator between neighbours. -/
theorem chain_iff {separator : Text} {Part : Text → Prop} {s : Text} :
    Chain separator Part s ↔
      ∃ parts : List Text, parts ≠ [] ∧ (∀ part ∈ parts, Part part) ∧
        s = separator.intercalate parts := by
  constructor
  · intro h
    induction h with
    | @last part hp => exact ⟨[part], by simp, by simpa using hp, by simp⟩
    | @more part rest hp _ ih =>
      obtain ⟨parts, ne, all, rfl⟩ := ih
      exact ⟨part :: parts, by simp, List.forall_mem_cons.2 ⟨hp, all⟩,
        (List.intercalate_cons_of_ne_nil ne).symm⟩
  · rintro ⟨parts, ne, all, rfl⟩
    exact chain_intercalate ne all

/-- Parts without the mark between them are the pieces at that mark. -/
theorem chain_iff_splitOn {mark : Char} {Part : Text → Prop}
    (unmarked : ∀ part, Part part → mark ∉ part) {s : Text} :
    Chain [mark] Part s ↔ ∀ piece ∈ s.splitOn mark, Part piece := by
  rw [chain_iff]
  constructor
  · rintro ⟨parts, ne, all, rfl⟩
    rwa [List.splitOn_intercalate mark (fun part hp => unmarked part (all part hp)) ne]
  · intro all
    exact ⟨s.splitOn mark, List.splitOn_ne_nil mark s, all, (List.intercalate_splitOn mark).symm⟩

/-! ## Names -/

theorem isNameStart_of_nameStart {c : Char} (h : NameStart c) : isNameStart c = true := by
  unfold isNameStart Char.isAlpha Char.isUpper Char.isLower
  simp only [Bool.or_eq_true, Bool.and_eq_true, decide_eq_true_eq]
  rcases h with ⟨low, high⟩ | ⟨low, high⟩ | underscore
  · exact .inl (.inl ⟨low, high⟩)
  · exact .inl (.inr ⟨low, high⟩)
  · exact .inr underscore

theorem isNameChar_of_nameStart_or_digit {c : Char} (h : NameStart c ∨ Digit c) :
    isNameChar c = true := by
  rcases h with start | ⟨low, high⟩
  · exact isNameChar_of_isNameStart (isNameStart_of_nameStart start)
  · have digit : c.isDigit = true := by
      simp only [Char.isDigit, Bool.and_eq_true, decide_eq_true_eq]
      exact ⟨low, high⟩
    simp [isNameChar, Char.isAlphanum, digit]

theorem isName_iff_name {s : Text} : isName s = true ↔ Name s := by
  refine ⟨name_of_isName, ?_⟩
  rintro ⟨start, others⟩
  rw [isName, Bool.and_eq_true, List.all_eq_true]
  exact ⟨isNameStart_of_nameStart start, fun d hd => isNameChar_of_nameStart_or_digit (others d hd)⟩

theorem dot_not_mem_of_name {s : Text} (h : Name s) : '.' ∉ s :=
  not_mem_of_isName (by decide) (isName_iff_name.2 h)

/-- Identifiers are the paths of names. -/
theorem isIdentifier_iff_path {s : Text} : isIdentifier s = true ↔ Path s := by
  rw [Path, chain_iff_splitOn fun _ => dot_not_mem_of_name, isIdentifier, List.all_eq_true]
  exact forall₂_congr fun _ _ => isName_iff_name

/-! ## Words -/

/-- The characters from one to another, both included. -/
def range (first last : Char) : List Char :=
  (List.range' first.toNat (last.toNat + 1 - first.toNat)).map Char.ofNat

/-- Below the surrogates all numbers are characters. -/
theorem mem_range {first last c : Char} (h : last.toNat < 0xD800) :
    c ∈ range first last ↔ first ≤ c ∧ c ≤ last := by
  rw [range, List.mem_map]
  constructor
  · rintro ⟨n, hn, rfl⟩
    have between := List.mem_range'_1.1 hn
    have valid : n.isValidChar := .inl (by omega)
    have same : (Char.ofNat n).toNat = n := by
      rw [Char.ofNat, dif_pos valid]
      rfl
    constructor
    · change first.toNat ≤ (Char.ofNat n).toNat
      omega
    · change (Char.ofNat n).toNat ≤ last.toNat
      omega
  · rintro ⟨low, high⟩
    have low : first.toNat ≤ c.toNat := low
    have high : c.toNat ≤ last.toNat := high
    exact ⟨c.toNat, List.mem_range'_1.2 ⟨low, by omega⟩, Char.ofNat_toNat c⟩

/-- Folding takes a small letter and its capital to the small letter. -/
theorem foldCase_of_isLower {letter : Char} (small : letter.isLower = true) :
    Expression.foldCase letter = letter ∧ Expression.foldCase letter.toUpper = letter := by
  unfold Char.isLower at small
  simp only [Bool.and_eq_true, decide_eq_true_eq, ge_iff_le] at small
  have all : (range 'a' 'z').all (fun c =>
      Expression.foldCase c = c && Expression.foldCase c.toUpper = c) = true := by decide
  simpa using List.all_eq_true.1 all letter ((mem_range (by decide)).2 small)

/-- Of the characters without a case of their own nothing but ASCII capitals is made small. -/
theorem toUpper_toLower {c : Char} : c.toLower = c ∨ c.toLower.toUpper = c := by
  by_cases capital : c.isUpper = true
  · unfold Char.isUpper at capital
    simp only [decide_eq_true_eq, ge_iff_le] at capital
    have all : (range 'A' 'Z').all (fun c => c.toLower.toUpper = c) = true := by decide
    exact .inr (of_decide_eq_true (List.all_eq_true.1 all c ((mem_range (by decide)).2 capital)))
  · exact .inl (dif_neg fun between => capital (decide_eq_true between))

/-- The characters that fold to a small letter are that letter in whatever case. -/
theorem foldCase_eq_iff {letter c : Char} (small : letter.isLower = true) :
    Expression.foldCase c = letter ↔ CaseOf letter c := by
  constructor
  · intro fold
    unfold Expression.foldCase at fold
    split at fold
    · next long => exact long ▸ .longS fold.symm
    · split at fold
      · next sign => exact sign ▸ .kelvin fold.symm
      · rcases toUpper_toLower (c := c) with same | capital
        · exact (same.symm.trans fold) ▸ .small
        · rw [fold] at capital
          exact capital ▸ .capital
  · intro h
    cases h with
    | small => exact (foldCase_of_isLower small).1
    | capital => exact (foldCase_of_isLower small).2
    | longS same => exact same ▸ rfl
    | kelvin same => exact same ▸ rfl

/-- A text folds to a word of small letters when it is that word in whatever case. -/
theorem map_foldCase_eq_iff {word s : Text} (small : word.all Char.isLower = true) :
    s.map Expression.foldCase = word ↔ Word word s := by
  induction word generalizing s with
  | nil => simp [Word]
  | cons letter word ih =>
    rw [List.all_cons, Bool.and_eq_true] at small
    cases s with
    | nil => simp [Word]
    | cons c s =>
      rw [List.map_cons, List.cons.injEq, foldCase_eq_iff small.1, ih small.2]
      exact List.forall₂_cons.symm

theorem isAggregate_iff {s : Text} :
    Expression.isAggregate s = true ↔
      ∃ word ∈ (["count", "sum", "avg", "min", "max"] : List Text), Word word s := by
  have small : ∀ word ∈ (["count", "sum", "avg", "min", "max"] : List Text),
      word.all Char.isLower = true := by decide
  rw [Expression.isAggregate, List.contains_iff_mem]
  constructor
  · intro mem
    exact ⟨_, mem, (map_foldCase_eq_iff (small _ mem)).1 rfl⟩
  · rintro ⟨word, mem, cased⟩
    rw [(map_foldCase_eq_iff (small word mem)).2 cased]
    exact mem

/-! ## Expressions -/

theorem isArgument_iff {s : Text} : Expression.isArgument s = true ↔ Argument s := by
  rw [Expression.isArgument, Bool.or_eq_true, decide_eq_true_eq, isIdentifier_iff_path]
  constructor
  · rintro (rfl | path)
    · exact .star
    · exact .path path
  · rintro (_ | path)
    · exact .inl rfl
    · exact .inr path

/-- An argument starts and ends with a character that is not blank. -/
theorem isTrimmed_of_argument {s : Text} (h : Argument s) : Text.IsTrimmed s := by
  cases h with
  | star => decide
  | path path => exact (isTrimmed_of_isIdentifier (isIdentifier_iff_path.2 path)).1

theorem isArgument_trim_iff {piece : Text} :
    Expression.isArgument (Text.trim piece) = true ↔ Spaced piece := by
  rw [isArgument_iff]
  constructor
  · exact fun h => ⟨_, h, Text.padded_trim piece⟩
  · rintro ⟨argument, h, padded⟩
    rwa [padded.trim_eq (isTrimmed_of_argument h)]

theorem isPartChar_of_spaced {piece : Text} (h : Spaced piece) :
    ∀ c ∈ piece, isPartChar c = true :=
  Expression.isPartChar_of_isArgument (isArgument_trim_iff.2 h)

/-- A text of part characters has no character that is none. -/
theorem not_mem_of_isPartChar {c : Char} {s : Text} (other : isPartChar c = false)
    (h : ∀ d ∈ s, isPartChar d = true) : c ∉ s := by
  intro mem
  rw [h c mem] at other
  cases other

theorem arguments_iff {s : Text} :
    Arguments s ↔ ∀ piece ∈ s.splitOn ',', Expression.isArgument (Text.trim piece) = true := by
  rw [Arguments, chain_iff_splitOn fun part h =>
    not_mem_of_isPartChar (by decide) (isPartChar_of_spaced h)]
  exact forall₂_congr fun _ _ => isArgument_trim_iff.symm

/-- What follows the subject is nothing, or an alias. -/
theorem isTail_iff {s : Text} :
    Expression.isTail s = true ↔ s = [] ∨ ∃ before keyword after name : Text,
      s = before ++ (keyword ++ (after ++ name)) ∧ Gap before ∧ Word "as" keyword ∧ Gap after ∧
        Name name := by
  have small : "as".toList.all Char.isLower = true := by decide
  rw [Expression.isTail, Bool.or_eq_true, List.isEmpty_iff, Expression.isAlias_iff]
  simp only [map_foldCase_eq_iff small, isName_iff_name, Gap]

/-- A phrase is a subject and what follows it. -/
theorem phrase_iff {s : Text} :
    Phrase s ↔ ∃ subject tail : Text, s = subject ++ tail ∧ Subject subject ∧
      Expression.isTail tail = true := by
  constructor
  · rintro (@⟨_, h⟩ | @⟨subject, before, keyword, after, name, h, gap, word, gap', valid⟩)
    · exact ⟨s, [], by simp, h, rfl⟩
    · exact ⟨subject, _, rfl, h,
        isTail_iff.2 (.inr ⟨before, keyword, after, name, rfl, gap, word, gap', valid⟩)⟩
  · rintro ⟨subject, tail, rfl, h, behind⟩
    rcases isTail_iff.1 behind with
      rfl | ⟨before, keyword, after, name, rfl, gap, word, gap', valid⟩
    · rw [List.append_nil]
      exact .plain h
    · exact .aliased h gap word gap' valid

/-- What follows the subject does not start with a character of paths. -/
theorem head?_of_isTail {tail : Text} (h : Expression.isTail tail = true) :
    ∀ c ∈ tail.head?, (isNameChar c || c = '.') = false := by
  intro c hc
  rcases isTail_iff.1 h with rfl | ⟨before, keyword, after, name, rfl, ⟨filled, blank⟩, -⟩
  · cases hc
  · rw [List.head?_append_of_ne_nil _ filled] at hc
    have gap : Text.isBlank c = true := blank c (List.mem_of_mem_head? hc)
    rw [Bool.or_eq_false_iff, decide_eq_false_iff_not]
    constructor
    · rw [Bool.eq_false_iff]
      intro named
      rw [isBlank_eq_false_of_isNameChar named] at gap
      cases gap
    · rintro rfl
      cases gap

theorem isColumn_iff {s : Text} :
    Expression.isColumn s = true ↔
      ∃ path tail : Text, s = path ++ tail ∧ Path path ∧ Expression.isTail tail = true := by
  simp only [Expression.isColumn, Bool.and_eq_true, isIdentifier_iff_path]
  constructor
  · rintro ⟨path, tail⟩
    exact ⟨_, _, List.takeWhile_append_dropWhile.symm, path, tail⟩
  · rintro ⟨path, tail, rfl, valid, behind⟩
    have goOn : ∀ c ∈ path, (isNameChar c || c = '.') = true := fun c hc => by
      simpa using isNameChar_of_isIdentifier (isIdentifier_iff_path.2 valid) c hc
    have stop := head?_of_isTail behind
    rw [List.takeWhile_append_of_pos goOn, List.dropWhile_append_of_pos goOn]
    cases tail with
    | nil => simpa using ⟨valid, behind⟩
    | cons c rest =>
      have other := stop c rfl
      rw [List.takeWhile_cons_of_neg (by simp [other]),
        List.dropWhile_cons_of_neg (by simp [other]), List.append_nil]
      exact ⟨valid, behind⟩

/-- The first opening parenthesis is the one behind the aggregate, and the first closing one behind
that is the one that closes it. -/
theorem isCall_append {name arguments : Text} (tail : Text) (unopened : '(' ∉ name)
    (unclosed : ')' ∉ arguments) :
    Expression.isCall (name ++ '(' :: (arguments ++ [')']) ++ tail) =
      (Expression.isAggregate name &&
        (arguments.splitOn ',').all (Expression.isArgument ∘ Text.trim) &&
        Expression.isTail tail) := by
  have opened : cut? ['('] (name ++ '(' :: (arguments ++ [')']) ++ tail) =
      some (name, arguments ++ ')' :: tail) := by
    simpa using cut?_append (arguments ++ ')' :: tail) unopened
  have closed : cut? [')'] (arguments ++ ')' :: tail) = some (arguments, tail) := by
    simpa using cut?_append tail unclosed
  simp only [Expression.isCall, opened, closed]

theorem isCall_iff {s : Text} :
    Expression.isCall s = true ↔ ∃ word name arguments tail : Text,
      s = name ++ '(' :: (arguments ++ [')']) ++ tail ∧
        word ∈ (["count", "sum", "avg", "min", "max"] : List Text) ∧ Word word name ∧
        Arguments arguments ∧ Expression.isTail tail = true := by
  constructor
  · intro h
    obtain ⟨name, arguments, tail, whole, -, aggregate, inside, behind⟩ :=
      Expression.cases_of_isCall h
    obtain ⟨word, mem, cased⟩ := isAggregate_iff.1 aggregate
    exact ⟨word, name, arguments, tail, whole, mem, cased, arguments_iff.2 inside, behind⟩
  · rintro ⟨word, name, arguments, tail, rfl, mem, cased, inside, behind⟩
    have aggregate := isAggregate_iff.2 ⟨word, mem, cased⟩
    have pieces := arguments_iff.1 inside
    have unopened : '(' ∉ name :=
      not_mem_of_isPartChar (by decide) (Expression.isPartChar_of_isAggregate aggregate)
    have unclosed : ')' ∉ arguments := by
      intro mem
      rcases Text.eq_or_mem_of_mem_splitOn ',' mem with comma | ⟨piece, hp, mem⟩
      · cases comma
      · exact not_mem_of_isPartChar (by decide)
          (Expression.isPartChar_of_isArgument (pieces piece hp)) mem
    rw [isCall_append tail unopened unclosed, aggregate, behind, Bool.true_and, Bool.and_true]
    exact List.all_eq_true.2 pieces

/-- Expressions are the phrases with blanks around them. -/
theorem isExpression_iff_phrase {s : Text} : isExpression s = true ↔ Phrase (Text.trim s) := by
  rw [isExpression, Bool.or_eq_true, isColumn_iff, isCall_iff, phrase_iff]
  constructor
  · rintro (⟨path, tail, whole, valid, behind⟩ |
      ⟨word, name, arguments, tail, whole, mem, cased, inside, behind⟩)
    · exact ⟨path, tail, whole, .column valid, behind⟩
    · exact ⟨_, tail, whole, .call mem cased inside, behind⟩
  · rintro ⟨subject, tail, whole, valid | ⟨mem, cased, inside⟩, behind⟩
    · exact .inl ⟨subject, tail, whole, valid, behind⟩
    · exact .inr ⟨_, _, _, tail, whole, mem, cased, inside, behind⟩

/-! ## What accepted texts are free of -/

/-- The parentheses of a call are the only ones. -/
theorem count_of_isCall {s : Text} (h : Expression.isCall s = true) :
    s.count '(' = 1 ∧ s.count ')' = 1 := by
  obtain ⟨name, arguments, tail, rfl, parts⟩ := Expression.exists_of_isCall h
  have absent : ∀ c, isPartChar c = false → ∀ part ∈ name :: tail :: arguments, c ∉ part :=
    fun c other part hp => not_mem_of_isPartChar other (parts part hp)
  have count : ∀ c ∈ ['(', ')'], name.count c = 0 ∧ ([','].intercalate arguments).count c = 0 ∧
      tail.count c = 0 := by
    intro c hc
    have other : isPartChar c = false ∧ c ≠ ',' := by
      rcases List.mem_pair.1 hc with rfl | rfl <;> decide
    refine ⟨List.count_eq_zero.2 (absent c other.1 name (by simp)), List.count_eq_zero.2 ?_,
      List.count_eq_zero.2 (absent c other.1 tail (by simp))⟩
    intro mem
    rcases Text.mem_or_mem_of_mem_intercalate mem with comma | ⟨argument, hp, mem⟩
    · exact other.2 (List.mem_singleton.1 comma)
    · exact absent c other.1 argument (by simp [hp]) mem
  obtain ⟨n, a, t⟩ := count '(' (by simp)
  obtain ⟨n', a', t'⟩ := count ')' (by simp)
  simp [List.count_append, n, a, t, n', a', t']

/-- An expression has one pair of parentheses or none. -/
theorem count_of_isExpression {s : Text} (h : isExpression s = true) :
    s.count '(' ≤ 1 ∧ s.count ')' = s.count '(' := by
  obtain ⟨before, after, whole, blank, blank'⟩ := Text.exists_eq_append_trim s
  have trimmed : ∀ c ∈ ['(', ')'], s.count c = (Text.trim s).count c := by
    intro c hc
    have solid : Text.isBlank c = false := by
      rcases List.mem_pair.1 hc with rfl | rfl <;> decide
    have absent : ∀ t : Text, Text.Blank t → t.count c = 0 := by
      intro t gap
      refine List.count_eq_zero.2 fun mem => ?_
      rw [gap c mem] at solid
      cases solid
    have counted := congrArg (List.count c) whole
    rwa [List.count_append, List.count_append, absent before blank, absent after blank',
      Nat.zero_add, Nat.add_zero] at counted
  rw [trimmed '(' (by simp), trimmed ')' (by simp)]
  rcases Bool.or_eq_true_iff.1 h with column | call
  · have absent : ∀ c, isPartChar c = false → (Text.trim s).count c = 0 := fun c other =>
      List.count_eq_zero.2
        (not_mem_of_isPartChar other (Expression.isPartChar_of_isColumn column))
    rw [absent '(' (by decide), absent ')' (by decide)]
    decide
  · obtain ⟨opening, closing⟩ := count_of_isCall call
    rw [opening, closing]
    decide

end Grammar

end FilterSql
