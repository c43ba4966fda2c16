/-
# FilterSql.Proofs.Checks.Patterns -- names and expressions as regular languages

The grammar of names and expressions is regular, and it can be written down as patterns:

    name         [A-Za-z_][A-Za-z0-9_]*
    path         name(\.name)*
    argument     \*|path
    call         (?i:count|sum|avg|min|max)\(\s*argument(\s*,\s*argument)*\s*\)
    expression   (call|path)(\s+(?i:as)\s+name)?

The patterns are regular expressions over characters here, with the classes `\s` and `(?i:...)`
spelled out. `mem_path_iff` and `mem_expression_iff` say that their languages are the paths and the
phrases of the grammar, whatever alternatives of a pattern overlap. So the checkers accept what the
patterns match, and `checks_exact` says what that is.

A pattern has the blanks of a call where a scanner comes across them, before a comma and behind it;
in the grammar they belong to the argument that they surround. Sliding moves them from one place to
the other.
-/

import Mathlib.Computability.RegularExpressions
import FilterSql.Proofs.Checks.Phrases

namespace FilterSql

open Computability

/-- A pattern is a regular expression over characters. -/
abbrev Pattern := RegularExpression Char

namespace Pattern

open Grammar

/-! ## Parts of patterns -/

/-- Any character of a list. -/
def oneOf (chars : List Char) : Pattern := (chars.map .char).sum

/-- The pattern, or nothing. -/
def optional (p : Pattern) : Pattern := 1 + p

/-- The pattern once or more often, with the mark between neighbours. -/
def chained (mark : Char) (p : Pattern) : Pattern := p * (.char mark * p).star

theorem mem_sum {patterns : List Pattern} {s : Text} :
    s ∈ patterns.sum.matches' ↔ ∃ p ∈ patterns, s ∈ p.matches' := by
  induction patterns with
  | nil => simp
  | cons p patterns ih =>
    rw [List.sum_cons, RegularExpression.matches'_add, Language.mem_add, ih]
    simp only [List.mem_cons, exists_eq_or_imp]

theorem mem_oneOf {chars : List Char} {s : Text} :
    s ∈ (oneOf chars).matches' ↔ ∃ c ∈ chars, s = [c] := by
  rw [oneOf, mem_sum]
  constructor
  · rintro ⟨p, hp, hs⟩
    obtain ⟨c, hc, rfl⟩ := List.mem_map.1 hp
    exact ⟨c, hc, hs⟩
  · rintro ⟨c, hc, rfl⟩
    exact ⟨.char c, List.mem_map_of_mem hc, rfl⟩

theorem mem_star_oneOf {chars : List Char} {s : Text} :
    s ∈ (oneOf chars).star.matches' ↔ ∀ c ∈ s, c ∈ chars := by
  rw [RegularExpression.matches'_star, Language.mem_kstar]
  constructor
  · rintro ⟨pieces, rfl, all⟩ c hc
    obtain ⟨piece, hp, hc⟩ := List.mem_flatten.1 hc
    obtain ⟨d, hd, rfl⟩ := mem_oneOf.1 (all piece hp)
    exact List.mem_singleton.1 hc ▸ hd
  · intro all
    refine ⟨s.map ([·]), (List.flatMap_singleton' s).symm, List.forall_mem_map.2 fun c hc => ?_⟩
    exact mem_oneOf.2 ⟨c, all c hc, rfl⟩

theorem mem_char_mul {mark : Char} {p : Pattern} {s : Text} :
    s ∈ (.char mark * p : Pattern).matches' ↔ ∃ t ∈ p.matches', s = mark :: t := by
  rw [RegularExpression.matches'_mul, Language.mem_mul, RegularExpression.matches'_char]
  constructor
  · rintro ⟨_, rfl, t, ht, rfl⟩
    exact ⟨t, ht, rfl⟩
  · rintro ⟨t, ht, rfl⟩
    exact ⟨[mark], rfl, t, ht, rfl⟩

theorem mem_optional {p : Pattern} {s : Text} :
    s ∈ (optional p).matches' ↔ s = [] ∨ s ∈ p.matches' := by
  rw [optional, RegularExpression.matches'_add, Language.mem_add,
    RegularExpression.matches'_epsilon, Language.mem_one]

theorem mem_chained {mark : Char} {p : Pattern} {s : Text} :
    s ∈ (chained mark p).matches' ↔ Chain [mark] (· ∈ p.matches') s := by
  rw [chained, RegularExpression.matches'_mul, RegularExpression.matches'_star, Language.mem_mul]
  constructor
  · rintro ⟨first, hf, behind, others, rfl⟩
    obtain ⟨pieces, rfl, all⟩ := Language.mem_kstar.1 others
    induction pieces generalizing first with
    | nil => simpa using Chain.last hf
    | cons piece pieces ih =>
      obtain ⟨next, hn, rfl⟩ := mem_char_mul.1 (all piece List.mem_cons_self)
      have valid := (List.forall_mem_cons.1 all).2
      have rest := ih next hn valid (Language.join_mem_kstar valid)
      simpa using Chain.more hf rest
  · intro h
    induction h with
    | @last part hp => exact ⟨part, hp, [], Language.nil_mem_kstar _, List.append_nil _⟩
    | @more part rest hp _ ih =>
      obtain ⟨first, hf, behind, others, rfl⟩ := ih
      obtain ⟨pieces, rfl, all⟩ := Language.mem_kstar.1 others
      refine ⟨part, hp, ((mark :: first) :: pieces).flatten, ?_, by simp⟩
      exact Language.join_mem_kstar
        (List.forall_mem_cons.2 ⟨mem_char_mul.2 ⟨first, hf, rfl⟩, all⟩)

/-- What comes before each round of a repetition can be left to the round before. -/
theorem sliding (x y : Language Char) : (x * y)∗ * x = x * (y * x)∗ := by
  apply le_antisymm
  · refine kstar_mul_le ?_ ?_
    · calc x = x * 1 := (mul_one x).symm
        _ ≤ x * (y * x)∗ := by gcongr; exact one_le_kstar
    · calc x * y * (x * (y * x)∗) = x * (y * x * (y * x)∗) := by simp only [mul_assoc]
        _ ≤ x * (y * x)∗ := by gcongr; exact mul_kstar_le_kstar
  · refine mul_kstar_le ?_ ?_
    · calc x = 1 * x := (one_mul x).symm
        _ ≤ (x * y)∗ * x := by gcongr; exact one_le_kstar
    · calc (x * y)∗ * x * (y * x) = (x * y)∗ * (x * y) * x := by simp only [mul_assoc]
        _ ≤ (x * y)∗ * x := by gcongr; exact kstar_mul_le_kstar

/-! ## Names -/

/-- The characters that a name may start with. -/
def nameStarts : List Char := range 'A' 'Z' ++ range 'a' 'z' ++ ['_']

/-- The ASCII digits. -/
def digits : List Char := range '0' '9'

/-- A name. -/
def name : Pattern := oneOf nameStarts * (oneOf (nameStarts ++ digits)).star

/-- Names with dots in between. -/
def path : Pattern := chained '.' name

theorem mem_nameStarts {c : Char} : c ∈ nameStarts ↔ NameStart c := by
  rw [nameStarts, List.mem_append, List.mem_append, List.mem_singleton, or_assoc,
    mem_range (by decide), mem_range (by decide)]
  rfl

theorem mem_nameStarts_append_digits {c : Char} :
    c ∈ nameStarts ++ digits ↔ NameStart c ∨ Digit c := by
  rw [List.mem_append, mem_nameStarts, digits, mem_range (by decide)]
  rfl

theorem mem_name_iff {s : Text} : s ∈ name.matches' ↔ Name s := by
  rw [name, RegularExpression.matches'_mul, Language.mem_mul]
  constructor
  · rintro ⟨_, first, others, rest, rfl⟩
    obtain ⟨c, start, rfl⟩ := mem_oneOf.1 first
    exact .intro (mem_nameStarts.1 start) fun d hd =>
      mem_nameStarts_append_digits.1 (mem_star_oneOf.1 rest d hd)
  · rintro @⟨c, rest, start, others⟩
    exact ⟨[c], mem_oneOf.2 ⟨c, mem_nameStarts.2 start, rfl⟩, rest, mem_star_oneOf.2 fun d hd =>
      mem_nameStarts_append_digits.2 (others d hd), rfl⟩

/-- The language of the pattern of paths are the paths. -/
theorem mem_path_iff {s : Text} : s ∈ path.matches' ↔ Grammar.Path s := by
  rw [path, mem_chained]
  simp only [mem_name_iff]
  rfl

/-! ## Blanks and words -/

/-- The characters with the Unicode property White_Space. -/
def whiteSpace : List Char :=
  range '\t' '\r' ++ [' ', '\u0085', '\u00A0', '\u1680'] ++ range '\u2000' '\u200A' ++
    ['\u2028', '\u2029', '\u202F', '\u205F', '\u3000']

/-- Blanks, possibly none. -/
def blanks : Pattern := (oneOf whiteSpace).star

/-- Blanks, at least one. -/
def gap : Pattern := oneOf whiteSpace * blanks

/-- The characters that are a given small letter when letter case does not count. -/
def cases (letter : Char) : List Char :=
  [letter, letter.toUpper] ++ (if letter = 's' then ['\u017F'] else []) ++
    (if letter = 'k' then ['\u212A'] else [])

/-- A word of small letters in whatever case. -/
def word (letters : Text) : Pattern := (letters.map fun letter => oneOf (cases letter)).prod

theorem mem_whiteSpace {c : Char} : c ∈ whiteSpace ↔ Text.isBlank c = true := by
  constructor
  · have all : whiteSpace.all Text.isBlank = true := by decide
    exact List.all_eq_true.1 all c
  · intro blank
    have number : c.toNat ∈ whiteSpace.map Char.toNat := by
      have numbers : whiteSpace.map Char.toNat =
          List.range' 0x9 5 ++ [0x20, 0x85, 0xA0, 0x1680] ++ List.range' 0x2000 11 ++
            [0x2028, 0x2029, 0x202F, 0x205F, 0x3000] := by decide
      rw [numbers]
      simp only [Text.isBlank, Bool.or_eq_true, Bool.and_eq_true, decide_eq_true_eq,
        beq_iff_eq] at blank
      simp only [List.mem_append, List.mem_range'_1, List.mem_cons, List.not_mem_nil]
      omega
    obtain ⟨d, hd, same⟩ := List.mem_map.1 number
    exact Char.toNat_inj.1 same ▸ hd

theorem mem_blanks_iff {s : Text} : s ∈ blanks.matches' ↔ Text.Blank s := by
  rw [blanks, mem_star_oneOf]
  exact forall₂_congr fun _ _ => mem_whiteSpace

theorem mem_gap_iff {s : Text} : s ∈ gap.matches' ↔ Gap s := by
  rw [gap, RegularExpression.matches'_mul, Language.mem_mul, Gap]
  constructor
  · rintro ⟨_, first, others, rest, rfl⟩
    obtain ⟨c, hc, rfl⟩ := mem_oneOf.1 first
    refine ⟨by simp, List.forall_mem_cons.2 ⟨mem_whiteSpace.1 hc, mem_blanks_iff.1 rest⟩⟩
  · rintro ⟨filled, blank⟩
    obtain ⟨c, rest, rfl⟩ := List.exists_cons_of_ne_nil filled
    obtain ⟨hc, others⟩ := List.forall_mem_cons.1 blank
    exact ⟨[c], mem_oneOf.2 ⟨c, mem_whiteSpace.2 hc, rfl⟩, rest, mem_blanks_iff.2 others, rfl⟩

theorem mem_cases {letter c : Char} : c ∈ cases letter ↔ CaseOf letter c := by
  simp only [cases, List.mem_append, List.mem_cons, List.not_mem_nil, or_false,
    List.mem_ite_nil_right]
  constructor
  · rintro (((rfl | rfl) | ⟨same, rfl⟩) | ⟨same, rfl⟩)
    · exact .small
    · exact .capital
    · exact .longS same
    · exact .kelvin same
  · rintro (_ | _ | same | same)
    · exact .inl (.inl (.inl rfl))
    · exact .inl (.inl (.inr rfl))
    · exact .inl (.inr ⟨same, rfl⟩)
    · exact .inr ⟨same, rfl⟩

theorem mem_word_iff {letters s : Text} : s ∈ (word letters).matches' ↔ Word letters s := by
  induction letters generalizing s with
  | nil =>
    rw [word, List.map_nil, List.prod_nil, RegularExpression.matches'_epsilon, Language.mem_one,
      Word, List.forall₂_nil_left_iff]
  | cons letter letters ih =>
    rw [word, List.map_cons, List.prod_cons, RegularExpression.matches'_mul, Language.mem_mul,
      Word, List.forall₂_cons_left_iff]
    constructor
    · rintro ⟨_, first, rest, others, rfl⟩
      obtain ⟨c, hc, rfl⟩ := mem_oneOf.1 first
      exact ⟨c, rest, mem_cases.1 hc, ih.1 others, rfl⟩
    · rintro ⟨c, rest, hc, others, rfl⟩
      exact ⟨[c], mem_oneOf.2 ⟨c, mem_cases.2 hc, rfl⟩, rest, ih.2 others, rfl⟩

/-! ## Expressions -/

/-- The name of an aggregate. -/
def aggregate : Pattern :=
  ((["count", "sum", "avg", "min", "max"] : List Text).map word).sum

/-- An argument of a call. -/
def argument : Pattern := .char '*' + path

/-- The arguments of a call, with the blanks around them. -/
def arguments : Pattern :=
  blanks * argument * (blanks * .char ',' * blanks * argument).star * blanks

/-- An aggregate with its arguments. -/
def call : Pattern := aggregate * .char '(' * arguments * .char ')'

/-- An alias. -/
def newName : Pattern := gap * word "as" * gap * name

/-- A select expression. -/
def expression : Pattern := (call + path) * optional newName

theorem mem_aggregate_iff {s : Text} :
    s ∈ aggregate.matches' ↔
      ∃ word ∈ (["count", "sum", "avg", "min", "max"] : List Text), Word word s := by
  rw [aggregate, mem_sum]
  constructor
  · rintro ⟨p, hp, hs⟩
    obtain ⟨letters, mem, rfl⟩ := List.mem_map.1 hp
    exact ⟨letters, mem, mem_word_iff.1 hs⟩
  · rintro ⟨letters, mem, hs⟩
    exact ⟨word letters, List.mem_map_of_mem mem, mem_word_iff.2 hs⟩

theorem mem_argument_iff {s : Text} : s ∈ argument.matches' ↔ Argument s := by
  rw [argument, RegularExpression.matches'_add, Language.mem_add,
    RegularExpression.matches'_char, mem_path_iff]
  constructor
  · rintro (rfl | valid)
    · exact .star
    · exact .path valid
  · rintro (_ | valid)
    · exact .inl rfl
    · exact .inr valid

theorem mem_spaced_iff {s : Text} : s ∈ (blanks * argument * blanks).matches' ↔ Spaced s := by
  simp only [RegularExpression.matches'_mul, Language.mem_mul, mem_blanks_iff, mem_argument_iff]
  constructor
  · rintro ⟨_, ⟨before, hb, inside, ha, rfl⟩, after, hb', rfl⟩
    exact ⟨inside, ha, before, after, hb, hb', rfl⟩
  · rintro ⟨inside, ha, before, after, hb, hb', rfl⟩
    exact ⟨before ++ inside, ⟨before, hb, inside, ha, rfl⟩, after, hb', rfl⟩

/-- The blanks around a comma belong to its neighbours. -/
theorem mem_arguments_iff {s : Text} :
    s ∈ arguments.matches' ↔ Arguments s := by
  have regrouped : arguments.matches' = (chained ',' (blanks * argument * blanks)).matches' := by
    simp only [arguments, chained, RegularExpression.matches'_mul,
      RegularExpression.matches'_star]
    have slid := sliding blanks.matches'
      ((RegularExpression.char ',').matches' * blanks.matches' * argument.matches')
    simp only [mul_assoc] at slid ⊢
    rw [slid]
  rw [regrouped, mem_chained, Arguments]
  simp only [mem_spaced_iff]

theorem mem_call_iff {s : Text} :
    s ∈ call.matches' ↔ ∃ word name inside : Text,
      word ∈ (["count", "sum", "avg", "min", "max"] : List Text) ∧ Word word name ∧
        Arguments inside ∧ name ++ '(' :: (inside ++ [')']) = s := by
  simp only [call, RegularExpression.matches'_mul, RegularExpression.matches'_char,
    Language.mem_mul, mem_aggregate_iff, mem_arguments_iff]
  constructor
  · rintro ⟨_, ⟨_, ⟨name, ⟨word, mem, cased⟩, _, rfl, rfl⟩, inside, valid, rfl⟩, _, rfl, rfl⟩
    exact ⟨word, name, inside, mem, cased, valid, by simp⟩
  · rintro ⟨word, name, inside, mem, cased, valid, rfl⟩
    exact ⟨_, ⟨_, ⟨name, ⟨word, mem, cased⟩, _, rfl, rfl⟩, inside, valid, rfl⟩, _, rfl, by simp⟩

theorem mem_subject_iff {s : Text} : s ∈ (call + path).matches' ↔ Subject s := by
  rw [RegularExpression.matches'_add, Language.mem_add, mem_call_iff, mem_path_iff]
  constructor
  · rintro (⟨word, name, inside, mem, cased, valid, rfl⟩ | valid)
    · exact .call mem cased valid
    · exact .column valid
  · rintro (valid | ⟨mem, cased, valid⟩)
    · exact .inr valid
    · exact .inl ⟨_, _, _, mem, cased, valid, rfl⟩

theorem mem_newName_iff {s : Text} :
    s ∈ newName.matches' ↔ ∃ before keyword after name : Text,
      s = before ++ (keyword ++ (after ++ name)) ∧ Gap before ∧ Word "as" keyword ∧ Gap after ∧
        Name name := by
  simp only [newName, RegularExpression.matches'_mul, Language.mem_mul, mem_gap_iff, mem_word_iff,
    mem_name_iff]
  constructor
  · rintro ⟨_, ⟨_, ⟨before, gap, keyword, cased, rfl⟩, after, gap', rfl⟩, name, valid, rfl⟩
    exact ⟨before, keyword, after, name, by simp, gap, cased, gap', valid⟩
  · rintro ⟨before, keyword, after, name, rfl, gap, cased, gap', valid⟩
    exact ⟨_, ⟨_, ⟨before, gap, keyword, cased, rfl⟩, after, gap', rfl⟩, name, valid, by simp⟩

/-- The language of the pattern of expressions are the phrases. -/
theorem mem_expression_iff {s : Text} : s ∈ expression.matches' ↔ Phrase s := by
  rw [expression, RegularExpression.matches'_mul, Language.mem_mul, phrase_iff]
  simp only [mem_subject_iff, mem_optional, mem_newName_iff, isTail_iff]
  constructor
  · rintro ⟨subject, valid, tail, behind, rfl⟩
    exact ⟨subject, tail, rfl, valid, behind⟩
  · rintro ⟨subject, tail, rfl, valid, behind⟩
    exact ⟨subject, valid, tail, behind, rfl⟩

/-! ## The checkers -/

/-- A text is returned by the checker of identifiers exactly when each of its segments between dots
is a name, and by the checker of expressions exactly when it is a phrase once blanks are taken off
its ends. These are the texts that the two patterns match. None of them has a quotation mark, a
semicolon, a minus, a question mark or an equals sign in it, or more than one pair of parentheses.
-/
theorem checks_exact (s : Text) :
    ((checkIdentifier s = .ok s ↔ ∀ segment ∈ s.splitOn '.', Name segment) ∧
      (checkIdentifier s = .ok s ↔ s ∈ path.matches')) ∧
    ((checkExpression s = .ok s ↔ Phrase (Text.trim s)) ∧
      (checkExpression s = .ok s ↔ Text.trim s ∈ expression.matches')) ∧
    (checkIdentifier s = .ok s ∨ checkExpression s = .ok s →
      (∀ c ∈ ['\'', '"', '\x60', ';', '-', '?', '='], c ∉ s) ∧
        s.count '(' ≤ 1 ∧ s.count ')' = s.count '(') := by
  have identifier : checkIdentifier s = .ok s ↔ isIdentifier s = true := by
    rw [checkIdentifier_eq_ok_iff, and_iff_left rfl]
  have expression : checkExpression s = .ok s ↔ isExpression s = true := by
    rw [checkExpression]
    split
    · next valid => exact iff_of_true rfl valid
    · next refused => exact iff_of_false (fun same => by cases same) refused
  rw [identifier, expression, mem_path_iff, mem_expression_iff]
  refine ⟨⟨?_, isIdentifier_iff_path⟩, ⟨isExpression_iff_phrase, isExpression_iff_phrase⟩, ?_⟩
  · rw [isIdentifier_iff_path, Grammar.Path, chain_iff_splitOn fun _ => dot_not_mem_of_name]
  · intro accepted
    have valid : isExpression s = true := accepted.elim isExpression_of_isIdentifier id
    refine ⟨fun c hc mem => ?_, count_of_isExpression valid⟩
    have other : (['\'', '"', '\x60', ';', '-', '?', '='].any isExpressionChar) = false := by
      decide
    exact List.any_eq_false.1 other c hc (isExpressionChar_of_isExpression valid c mem)

/-- The column, the keyword and the new name of an expression may all read `as`. -/
theorem phrase_as_as_as :
    checkExpression " as a\u017F as" = .ok " as a\u017F as" ∧
      Phrase (Text.trim " as a\u017F as") ∧ (" as a\u017F as" : Text).count '(' ≤ 1 := by
  have accepted : checkExpression " as a\u017F as" = .ok " as a\u017F as" := by rfl
  exact ⟨accepted, (checks_exact _).2.1.1.1 accepted, ((checks_exact _).2.2 (.inr accepted)).2.1⟩

end Pattern

end FilterSql
