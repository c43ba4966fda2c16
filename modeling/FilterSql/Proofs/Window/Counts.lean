/-
# FilterSql.Proofs.Window.Counts -- how counts are spelled, and how they are written

A count has many spellings and one numeral. `Count.Spells` says which texts spell a number, with the
value of a digit given by its place, and `Count.IsNumeral` which of them is its numeral. A text is
read as a count exactly when it spells a number below 2^64, so no number is ever reduced to one that
fits, however long its text.

`Paging.numerals?` reads the other way. It takes a phrase that asks for a window apart and keeps
what stands behind each keyword, and there it finds the numerals of limit and offset and nothing
else but the limit for all rows. So the spelling of a count has no effect on a statement.
-/

import Mathlib.Algebra.Group.Nat.Defs
import FilterSql.Proofs.Query.Parts
import FilterSql.Proofs.Window.Ordering
import FilterSql.Proofs.Window.Rows

namespace FilterSql

/-! ## Spellings and numerals -/

namespace Count

/-- The number that decimal digits write: every digit counts as often as its place says. -/
def placeValue : Text → Nat
  | [] => 0
  | c :: rest => (c.toNat - '0'.toNat) * 10 ^ rest.length + placeValue rest

/-- The text spells the number: decimal digits that write it, behind one plus sign at most. -/
def Spells (n : Nat) (s : Text) : Prop :=
  ∃ digits, (s = digits ∨ s = '+' :: digits) ∧ Grammar.Decimal digits ∧ placeValue digits = n

/-- The text is the numeral of the number. -/
structure IsNumeral (n : Nat) (s : Text) : Prop where
  /-- It consists of decimal digits. -/
  decimal : Grammar.Decimal s
  /-- None of them is a leading zero. -/
  shortest : s.head? = some '0' → s = ['0']
  /-- They write the number. -/
  value : placeValue s = n

theorem IsNumeral.spells {n : Nat} {s : Text} (h : IsNumeral n s) : Spells n s :=
  ⟨s, .inl rfl, h.decimal, h.value⟩

/-- Digits added up place by place write the number that is built up digit by digit. -/
theorem ofDigitChars_eq_placeValue (s : Text) : Nat.ofDigitChars 10 s 0 = placeValue s := by
  induction s with
  | nil => simp [placeValue]
  | cons c rest ih =>
    rw [Nat.ofDigitChars_cons, Nat.mul_zero, Nat.zero_add, Nat.ofDigitChars_eq_ofDigitChars_zero,
      ih, Nat.mul_comm]
    rfl

theorem isDigit_iff {c : Char} : c.isDigit = true ↔ Grammar.Digit c := by
  refine ⟨Grammar.digit_of_isDigit, fun digit => ?_⟩
  rw [Char.isDigit, Bool.and_eq_true, decide_eq_true_eq, decide_eq_true_eq]
  exact digit

theorem decimal_iff {s : Text} : Grammar.Decimal s ↔ s ≠ [] ∧ s.all Char.isDigit = true := by
  simp only [Grammar.Decimal, List.all_eq_true, isDigit_iff]

/-- Digits are read as the number that they write when it fits, and never as another. -/
theorem ofDigits?_eq_some_iff {digits : Text} {n : Count} :
    ofDigits? digits = some n ↔ placeValue digits = n.toNat := by
  unfold ofDigits?
  simp only [ofDigitChars_eq_placeValue]
  split
  · next fits =>
    rw [Option.some.injEq, ← UInt64.toNat_inj, UInt64.toNat_ofNatLT]
  · next large =>
    refine ⟨(fun h => by cases h), fun same => absurd ?_ large⟩
    rw [same]
    exact n.toNat_lt_size

/-- A text is read as the count that it spells. -/
theorem ofText?_eq_some_iff {s : Text} {n : Count} : ofText? s = some n ↔ Spells n.toNat s := by
  have read : ∀ digits : Text,
      (if digits ≠ [] ∧ digits.all Char.isDigit then ofDigits? digits else none) = some n ↔
        Grammar.Decimal digits ∧ placeValue digits = n.toNat := by
    intro digits
    rw [decimal_iff, ← ofDigits?_eq_some_iff]
    split
    · next decimal => simp only [decimal, and_self, true_and, ne_eq, not_false_eq_true]
    · next other => exact ⟨(fun h => by cases h), fun h => absurd h.1 other⟩
  unfold ofText?
  rw [read]
  constructor
  · intro h
    refine ⟨_, ?_, h⟩
    split
    · next signed =>
      obtain ⟨digits, rfl⟩ := List.head?_eq_some_iff.1 signed
      exact .inr rfl
    · exact .inl rfl
  · rintro ⟨digits, same, decimal, value⟩
    rcases same with rfl | rfl
    · -- A plus sign is no digit.
      have unsigned : s.head? ≠ some '+' := fun plus =>
        absurd (isDigit_iff.2 (decimal.2 '+' (List.mem_of_mem_head? plus))) (by decide)
      rw [if_neg unsigned]
      exact ⟨decimal, value⟩
    · exact ⟨decimal, value⟩

/-- A written count does not start with a zero unless it is one. -/
theorem head?_toDigits (n : Nat) : (Nat.toDigits 10 n).head? = some '0' → n = 0 := by
  induction n using Nat.strongRecOn with
  | ind n ih =>
    have small : ∀ d < 10, (Nat.digitChar d) = '0' → d = 0 := by decide
    rw [Nat.toDigits_eq_if (by decide)]
    split
    · next single =>
      rw [List.head?_cons, Option.some.injEq]
      exact small n single
    · next large =>
      rw [List.head?_append_of_ne_nil _ Nat.toDigits_ne_nil]
      intro zero
      have front := ih (n / 10) (by omega) zero
      omega

/-- A count is written as its numeral. -/
theorem isNumeral_toText (n : Count) : IsNumeral n.toNat n.toText where
  decimal := ⟨Nat.toDigits_ne_nil, fun _ hc => isDigit_iff.1 (isDigit_of_mem_toText hc)⟩
  shortest zero := by
    rw [toText, head?_toDigits _ zero]
    rfl
  value := by
    rw [← ofDigitChars_eq_placeValue]
    exact Nat.ofDigitChars_ten_toDigits

/-- A digit is written for its value. -/
theorem digitChar_of_digit {c : Char} (h : Grammar.Digit c) :
    c.toNat - '0'.toNat < 10 ∧ Nat.digitChar (c.toNat - '0'.toNat) = c := by
  have low : 48 ≤ c.toNat := h.1
  have high : c.toNat ≤ 57 := h.2
  have zero : '0'.toNat = 48 := rfl
  have small : c.toNat - '0'.toNat < 10 := by omega
  refine ⟨small, Char.toNat_inj.1 ?_⟩
  rw [Nat.toNat_digitChar_of_lt_ten small]
  omega

/-- Digits behind those of a positive number are the last digits of the number that all of them
write. -/
theorem toDigits_ofDigitChars {digits : Text} (h : ∀ c ∈ digits, Grammar.Digit c) {start : Nat}
    (positive : 0 < start) :
    Nat.toDigits 10 (Nat.ofDigitChars 10 digits start) = Nat.toDigits 10 start ++ digits := by
  induction digits generalizing start with
  | nil => simp
  | cons c rest ih =>
    obtain ⟨first, others⟩ := List.forall_mem_cons.1 h
    obtain ⟨small, char⟩ := digitChar_of_digit first
    rw [Nat.ofDigitChars_cons, ih others (by omega),
      ← Nat.toDigits_append_toDigits (by decide) positive small, Nat.toDigits_of_lt_base small,
      char, List.append_assoc, List.singleton_append]

/-- A count has no other numeral than the one that is written for it. -/
theorem IsNumeral.eq_toText {n : Count} {s : Text} (h : IsNumeral n.toNat s) : s = n.toText := by
  obtain ⟨⟨ne, digit⟩, shortest, value⟩ := h
  obtain ⟨c, rest, rfl⟩ := List.exists_cons_of_ne_nil ne
  rw [toText, ← value]
  by_cases zero : c = '0'
  · rw [shortest (congrArg some zero)]
    rfl
  · obtain ⟨first, others⟩ := List.forall_mem_cons.1 digit
    obtain ⟨small, char⟩ := digitChar_of_digit first
    have positive : 0 < c.toNat - '0'.toNat := Nat.pos_of_ne_zero fun none =>
      zero (by rw [← char, none]; rfl)
    rw [← ofDigitChars_eq_placeValue, Nat.ofDigitChars_cons, Nat.mul_zero, Nat.zero_add,
      toDigits_ofDigitChars others positive, Nat.toDigits_of_lt_base small, char,
      List.singleton_append]

theorem isNumeral_iff {n : Count} {s : Text} : IsNumeral n.toNat s ↔ s = n.toText :=
  ⟨IsNumeral.eq_toText, fun same => same ▸ isNumeral_toText n⟩

end Count

/-! ## The numerals of a statement -/

namespace Paging

/-- Each text that spells a number or stands for one, with the keyword in front of it. -/
def numbered : List (Text × Word) → List (Text × Text)
  | (keyword, _) :: (s, word) :: rest =>
    match word with
    | .number _ | .unbounded => (keyword, s) :: numbered rest
    | _ => numbered ((s, word) :: rest)
  | _ => []

/-- The numerals of a phrase, each with the keyword in front of it. -/
def numerals? (dialect : Dialect) (phrase : Text) : Option (List (Text × Text)) :=
  let texts := (phrase.splitOn ' ').filter (· ≠ [])
  (texts.mapM (word? dialect)).map fun words => numbered (texts.zip words)

/-- The keywords that limits stand behind. -/
def limitKeywords : List Text := ["TOP", "LIMIT", "NEXT"]

theorem Worded.numerals?_eq {dialect : Dialect} {phrase : Text} {texts : List Text}
    {words : List Word} (h : Worded dialect phrase texts words) :
    numerals? dialect phrase = some (numbered (texts.zip words)) := by
  obtain ⟨split, read⟩ := h.split_read
  rw [numerals?, split, read]
  rfl

end Paging

namespace Window

variable {caps : Capabilities} {w : Window}

/-- The numerals of limit and offset are written, and nothing else is but the limit for all rows.
The offset is left out with a limit of zero in dialects that fetch. -/
structure Written (caps : Capabilities) (w : Window) (numerals : List (Text × Text)) : Prop where
  /-- What stands behind the keyword of a limit is the numeral of the limit. -/
  limit : ∀ s : Text, (∃ keyword ∈ Paging.limitKeywords, (keyword, s) ∈ numerals) ↔
    (∃ n, w.limit = some n ∧ Count.IsNumeral n.toNat s) ∨
      w.limit = none ∧ w.offset ≠ none ∧ caps.unboundedLimit = some s
  /-- What stands behind the keyword of an offset is the numeral of the offset. -/
  offset : ∀ s : Text, ("OFFSET".toList, s) ∈ numerals ↔
    (∃ m, w.offset = some m ∧ Count.IsNumeral m.toNat s) ∧
      ¬ (caps.window = .topFetch ∧ w.limit = some 0)
  /-- There are no other keywords. -/
  known : ∀ entry ∈ numerals, entry.1 = "OFFSET" ∨ entry.1 ∈ Paging.limitKeywords

/-- What is written for the limit. -/
def limitText? (caps : Capabilities) (w : Window) : Option Text :=
  match w.limit, w.offset with
  | some n, _ => some n.toText
  | none, some _ => caps.unboundedLimit
  | none, none => none

/-- What is written for the offset. -/
def offsetText? (caps : Capabilities) (w : Window) : Option Text :=
  if caps.window = .topFetch ∧ w.limit = some 0 then none else w.offset.map Count.toText

theorem limitText?_eq_some_iff {s : Text} :
    w.limitText? caps = some s ↔ (∃ n, w.limit = some n ∧ Count.IsNumeral n.toNat s) ∨
      w.limit = none ∧ w.offset ≠ none ∧ caps.unboundedLimit = some s := by
  unfold limitText?
  cases w.limit with
  | some n => simp [Count.isNumeral_iff, eq_comm]
  | none => cases w.offset <;> simp

theorem offsetText?_eq_some_iff {s : Text} :
    w.offsetText? caps = some s ↔ (∃ m, w.offset = some m ∧ Count.IsNumeral m.toNat s) ∧
      ¬ (caps.window = .topFetch ∧ w.limit = some 0) := by
  unfold offsetText?
  split
  · next dropped => simp [dropped]
  · next kept =>
    rw [and_iff_left kept]
    simp [Count.isNumeral_iff, eq_comm]

/-- It does not matter in which order the numerals are written, and behind which of its keywords
the limit. -/
theorem written_of_mem {keyword : Text} {numerals : List (Text × Text)}
    (limitKeyword : keyword ∈ Paging.limitKeywords)
    (mem : ∀ entry, entry ∈ numerals ↔ entry ∈ (w.limitText? caps).map (keyword, ·) ∨
      entry ∈ (w.offsetText? caps).map ("OFFSET".toList, ·)) : w.Written caps numerals := by
  have other : "OFFSET".toList ∉ Paging.limitKeywords := by decide
  constructor
  case limit =>
    intro s
    rw [← limitText?_eq_some_iff]
    constructor
    · rintro ⟨k, known, entry⟩
      rcases (mem _).1 entry with limit | offset
      · obtain ⟨_, limit, same⟩ := Option.map_eq_some_iff.1 limit
        rw [limit, (Prod.mk.inj same).2]
      · obtain ⟨_, -, same⟩ := Option.map_eq_some_iff.1 offset
        exact absurd ((Prod.mk.inj same).1 ▸ known) other
    · exact fun limit => ⟨keyword, limitKeyword, (mem _).2 (.inl (by rw [limit]; rfl))⟩
  case offset =>
    intro s
    rw [← offsetText?_eq_some_iff]
    constructor
    · intro entry
      rcases (mem _).1 entry with limit | offset
      · obtain ⟨_, -, same⟩ := Option.map_eq_some_iff.1 limit
        exact absurd ((Prod.mk.inj same).1 ▸ limitKeyword) other
      · obtain ⟨_, offset, same⟩ := Option.map_eq_some_iff.1 offset
        rw [offset, (Prod.mk.inj same).2]
    · exact fun offset => (mem _).2 (.inr (by rw [offset]; rfl))
  case known =>
    intro entry he
    rcases (mem _).1 he with limit | offset
    · obtain ⟨_, -, rfl⟩ := Option.map_eq_some_iff.1 limit
      exact .inr limitKeyword
    · obtain ⟨_, -, rfl⟩ := Option.map_eq_some_iff.1 offset
      exact .inl rfl

end Window

namespace Dialect

/-- The numerals of all that is written for a window. -/
def numerals? (dialect : Dialect) (w : Window) : Option (List (Text × Text)) :=
  ((w.placement dialect.capabilities).phrases.mapM (Paging.numerals? dialect)).map List.flatten

variable {dialect : Dialect}

theorem numerals?_of_phrases_nil {w : Window}
    (h : (w.placement dialect.capabilities).phrases = []) : dialect.numerals? w = some [] := by
  rw [numerals?, h]
  rfl

theorem numerals?_of_phrases_singleton {w : Window} {phrase : Text} {texts : List Text}
    {words : List Paging.Word} (h : (w.placement dialect.capabilities).phrases = [phrase])
    (worded : Paging.Worded dialect phrase texts words) :
    dialect.numerals? w = some (Paging.numbered (texts.zip words)) := by
  rw [numerals?, h, List.mapM_cons, worded.numerals?_eq]
  simp

/-- At the end of a statement the limit stands in front of the offset, also that for all rows. -/
theorem numerals?_limitOffset (w : Window) (h : dialect.capabilities.window = .limitOffset) :
    dialect.numerals? w = some
      (((w.limitText? dialect.capabilities).map ("LIMIT".toList, ·)).toList ++
        (w.offset.map fun m => ("OFFSET".toList, m.toText)).toList) := by
  have phrases := phrases_limitOffset w h
  obtain ⟨limit, offset⟩ := w
  cases limit with
  | some n =>
    cases offset with
    | none =>
      rw [Window.limitOffset?_limit] at phrases
      exact numerals?_of_phrases_singleton phrases (Paging.worded_limit dialect n)
    | some m =>
      rw [Window.limitOffset?_limit_offset] at phrases
      exact numerals?_of_phrases_singleton phrases (Paging.worded_limit_offset dialect n m)
  | none =>
    cases offset with
    | none => exact numerals?_of_phrases_nil phrases
    | some m =>
      cases dialect with
      | postgres =>
        rw [Window.limitOffset?_offset m rfl] at phrases
        exact numerals?_of_phrases_singleton phrases (Paging.worded_offset _ m)
      | mysql =>
        -- The limit for all rows is the greatest of all counts.
        have greatest : "18446744073709551615".toList =
            (18446744073709551615 : Count).toText := by
          decide +kernel
        rw [Window.limitOffset?_unbounded_offset m rfl, greatest] at phrases
        rw [numerals?_of_phrases_singleton phrases (Paging.worded_limit_offset _ _ m), ← greatest]
        rfl
      | sqlite =>
        rw [Window.limitOffset?_unbounded_offset m rfl] at phrases
        exact numerals?_of_phrases_singleton phrases (Paging.worded_unbounded_offset m)
      | mssql => cases h

/-- Where rows are fetched the limit stands behind the offset, and in front of the select list when
no rows are passed over. -/
theorem numerals?_topFetch (w : Window) (h : dialect.capabilities.window = .topFetch) :
    ∃ keyword ∈ Paging.limitKeywords, dialect.numerals? w = some
      (((w.offsetText? dialect.capabilities).map ("OFFSET".toList, ·)).toList ++
        ((w.limitText? dialect.capabilities).map (keyword, ·)).toList) := by
  have fetches : dialect.capabilities.unboundedLimit = none := by
    cases dialect with
    | mssql => rfl
    | _ => cases h
  obtain ⟨limit, offset⟩ := w
  rcases Window.placement_topFetch h ⟨limit, offset⟩ with
    ⟨m, given, nonzero, placed⟩ | ⟨nowhere, placed⟩
  · dsimp only at given nonzero
    subst given
    have phrases : (Window.placement dialect.capabilities ⟨limit, some m⟩).phrases =
        [Window.fetch limit m] := by
      rw [placed]
      rfl
    refine ⟨"NEXT".toList, by decide, ?_⟩
    have offsetText : Window.offsetText? dialect.capabilities ⟨limit, some m⟩ = some m.toText := by
      simp [Window.offsetText?, nonzero]
    rw [offsetText]
    cases limit with
    | none =>
      rw [numerals?_of_phrases_singleton phrases (Paging.worded_fetch_none dialect m)]
      simp [Window.limitText?, fetches, Paging.numbered]
    | some n => exact numerals?_of_phrases_singleton phrases (Paging.worded_fetch_some dialect n m)
  · dsimp only at nowhere placed
    refine ⟨"TOP".toList, by decide, ?_⟩
    have offsetText : Window.offsetText? dialect.capabilities ⟨limit, offset⟩ = none := by
      cases offset with
      | none => simp [Window.offsetText?]
      | some m => simp [Window.offsetText?, h, nowhere m rfl]
    rw [offsetText]
    cases limit with
    | none =>
      cases offset with
      | none =>
        refine numerals?_of_phrases_nil ?_
        rw [placed]
        rfl
      | some m => cases nowhere m rfl
    | some n =>
      refine numerals?_of_phrases_singleton ?_ (Paging.worded_top dialect n)
      rw [placed]
      rfl

/-- Every dialect writes the numerals of limit and offset. -/
theorem exists_numerals (dialect : Dialect) (w : Window) :
    ∃ numerals, dialect.numerals? w = some numerals ∧
      w.Written dialect.capabilities numerals := by
  cases kind : dialect.capabilities.window with
  | limitOffset =>
    have known : "LIMIT".toList ∈ Paging.limitKeywords := by decide
    refine ⟨_, numerals?_limitOffset w kind, Window.written_of_mem known fun entry => ?_⟩
    have kept : w.offsetText? dialect.capabilities = w.offset.map Count.toText := by
      simp [Window.offsetText?, kind]
    simp [kept]
  | topFetch =>
    obtain ⟨keyword, known, numerals⟩ := numerals?_topFetch w kind
    refine ⟨_, numerals, Window.written_of_mem known fun entry => ?_⟩
    simp [or_comm]

end Dialect

/-! ## Counts of parameters -/

namespace Params

variable {p p' : Params}

/-- The last value of the key spells the number, blanks around it ignored. -/
def Gives (p : Params) (key : Text) (n : Nat) : Prop :=
  ∃ value, p.last? key = some value ∧ Count.Spells n (Text.trim value)

theorem count?_eq_some_iff {key : Text} {n : Count} :
    p.count? key = some n ↔ p.Gives key n.toNat := by
  rw [count?, Option.bind_eq_some_iff]
  simp only [Count.ofText?_eq_some_iff]
  rfl

/-- A key whose last values spell the same number has the same count. -/
theorem count?_eq_of_gives {key : Text}
    (h : ∀ n : Count, p.Gives key n.toNat ↔ p'.Gives key n.toNat) :
    p.count? key = p'.count? key := by
  apply Option.ext
  intro n
  rw [count?_eq_some_iff, count?_eq_some_iff, h n]

end Params

namespace Query

variable {p p' : Params}

/-- No value of limit or offset has an effect on the refusal. -/
theorem refusal?_eq_of_agree (h : ∀ part ≠ Part.window, part.Agree p p') :
    refusal? p = refusal? p' := by
  have stage : ∀ s : Stage, s.refusal? p = s.refusal? p' := by
    intro s
    by_cases window : s.part = .window
    · cases s with
      | window => rw [Stage.refusal?_window, Stage.refusal?_window]
      | _ => cases window
    · rw [Stage.refusal?, Stage.refusal?, s.verdicts_congr (h s.part window)]
  rw [refusal?, refusal?, funext stage]

/-- Of limit and offset only the counts matter. -/
theorem ofParams_eq_of_counts (h : ∀ part ≠ Part.window, part.Agree p p')
    (limit : p.count? Directive.limit.key = p'.count? Directive.limit.key)
    (offset : p.count? Directive.offset.key = p'.count? Directive.offset.key) :
    ofParams p = ofParams p' := by
  have query : kept p = kept p' := by
    refine Part.eq_of_same fun part => ?_
    by_cases window : part = .window
    · subst window
      show (kept p).window = (kept p').window
      rw [window_kept, window_kept, limit, offset]
    · exact same_kept part (h part window)
  rw [ofParams, ofParams, refusal?_eq_of_agree h, query]

end Query

/-! ## Counts of statements -/

/-- A joined list starts with its first part and ends with its last. -/
theorem exists_intercalate_eq {α : Type} (separator first : List α) (others : List (List α))
    (last : Option (List α)) :
    ∃ body, separator.intercalate (first :: others ++ last.toList) =
      first ++ body ++ last.elim [] (separator ++ ·) := by
  obtain ⟨body, front⟩ : ∃ body, separator.intercalate (first :: others) = first ++ body := by
    cases others with
    | nil => exact ⟨[], by simp⟩
    | cons next rest => exact ⟨_, by rw [List.intercalate_cons_cons, List.append_assoc]⟩
  refine ⟨body, ?_⟩
  cases last with
  | none => simp [front]
  | some line =>
    rw [Option.toList_some, intercalate_append separator (by simp) (by simp), front]
    simp

namespace Dialect

/-- The window of a statement is written behind its first word and on its last line. -/
theorem exists_sql_eq {dialect : Dialect} {table : Text} {p : Params} {c : Compiled}
    (h : dialect.compile table p = .ok c) :
    ∃ body, let placement := (Query.kept p).window.placement dialect.capabilities
      c.sql = "SELECT ".toList ++ placement.front?.elim [] (· ++ " ".toList) ++ body ++
        placement.suffix.elim [] (['\n'] ++ ·) := by
  obtain ⟨-, -, -, rfl⟩ := exists_of_compile h
  let s := Statement.ofQuery dialect.capabilities table (Query.kept p)
  have lines : s.lines = s.selection :: (s.front.tail ++ s.ordering.toList) ++ s.window.toList := by
    rw [Statement.lines_eq]
    rfl
  obtain ⟨body, sql⟩ := exists_intercalate_eq ['\n'] s.selection
    (s.front.tail ++ s.ordering.toList) s.window
  rw [← lines] at sql
  refine ⟨selectList dialect.capabilities (Query.kept p).projection (Query.kept p).exclude ++
    (" ".toList ++ fromPart dialect.capabilities table) ++ body, ?_⟩
  have selection : s.selection = selectPart dialect.capabilities (Query.kept p).projection
      (Query.kept p).exclude ((Query.kept p).window.placement dialect.capabilities).top ++
        " ".toList ++ fromPart dialect.capabilities table := rfl
  rw [selectPart_eq_front] at selection
  rw [Fragment.sql_join]
  refine sql.trans ?_
  rw [selection]
  simp only [List.append_assoc]
  rfl

/-- Counts never wrap. Limit and offset that are kept of parameters, and so those of the query that
is read, are the numbers below 2^64 that the last values spell, and a value that spells none has no
effect, on the refusal neither. What a statement shows
of them behind `TOP`, `LIMIT`, `NEXT` and `OFFSET` are their numerals, which are read back as them.
So the statement is the same for all spellings. -/
theorem compile_counts (p : Params) :
    (∀ n : Count, ((Query.kept p).window.limit = some n ↔ p.Gives Directive.limit.key n.toNat) ∧
        ((Query.kept p).window.offset = some n ↔ p.Gives Directive.offset.key n.toNat)) ∧
      (∀ q, Query.ofParams p = .ok q → q = Query.kept p) ∧
      (∀ (dialect : Dialect) (table : Text) (c : Compiled), dialect.compile table p = .ok c →
        ∃ q numerals body, Query.ofParams p = .ok q ∧
          let placement := q.window.placement dialect.capabilities
          c.sql = "SELECT ".toList ++ placement.front?.elim [] (· ++ " ".toList) ++ body ++
              placement.suffix.elim [] (['\n'] ++ ·) ∧
            dialect.numerals? q.window = some numerals ∧
            q.window.Written dialect.capabilities numerals) ∧
      (∀ (n : Count) (s : Text), Count.IsNumeral n.toNat s → Count.ofText? s = some n) ∧
      ∀ p' : Params, (∀ part ≠ Part.window, part.Agree p p') →
        (∀ e, Query.ofParams p = .error e ↔ Query.ofParams p' = .error e) ∧
          ((∀ n : Count,
              p.Gives Directive.limit.key n.toNat ↔ p'.Gives Directive.limit.key n.toNat) →
            (∀ n : Count,
              p.Gives Directive.offset.key n.toNat ↔ p'.Gives Directive.offset.key n.toNat) →
            ∀ (dialect : Dialect) (table : Text),
              dialect.compile table p = dialect.compile table p') := by
  refine ⟨fun n => ?_, fun q read => ?_, fun dialect table c compiled => ?_,
    fun n s numeral => Count.ofText?_eq_some_iff.2 numeral.spells, fun p' agree => ⟨fun e => ?_,
      fun limit offset dialect table => ?_⟩⟩
  · rw [Query.window_kept]
    exact ⟨Params.count?_eq_some_iff, Params.count?_eq_some_iff⟩
  · exact (Query.ofParams_eq_ok_iff.1 read).2
  · obtain ⟨-, accepted, -⟩ := exists_of_compile compiled
    obtain ⟨numerals, shown, written⟩ := exists_numerals dialect (Query.kept p).window
    obtain ⟨body, sql⟩ := exists_sql_eq compiled
    exact ⟨Query.kept p, numerals, body, Query.ofParams_eq_ok_iff.2 ⟨accepted, rfl⟩, sql, shown,
      written⟩
  · rw [Query.ofParams_eq_error_iff, Query.ofParams_eq_error_iff,
      Query.refusal?_eq_of_agree agree]
  · have read := Query.ofParams_eq_of_counts agree (Params.count?_eq_of_gives limit)
      (Params.count?_eq_of_gives offset)
    rw [compile, compile, read]

/-- Two spellings of the greatest count, a plus sign with leading zeros, and a number that would be
seven if it wrapped. -/
theorem compile_counts_greatest :
    let p := Params.ofPairs [("limit", "+007"), ("a", "eq.1"), ("offset", " 18446744073709551615 ")]
    let p' := Params.ofPairs [("offset", "018446744073709551615"), ("a", "eq.1"), ("limit", "x"),
      ("limit", "7")]
    let wrapping := Params.ofPairs [("limit", "7"), ("limit", "18446744073709551623")]
    let c : Compiled :=
      ⟨"SELECT * FROM [t] WITH (NOLOCK)\nWHERE [a] = ?\nORDER BY (SELECT NULL)\n" ++
        "OFFSET 18446744073709551615 ROWS FETCH NEXT 7 ROWS ONLY", ["1"]⟩
    mssql.compile "t" p = .ok c ∧ mssql.compile "t" p' = .ok c ∧
      (∃ q numerals, Query.ofParams p = .ok q ∧ q.window.limit = some 7 ∧
        mssql.numerals? q.window = some numerals ∧ q.window.Written mssql.capabilities numerals) ∧
      ∃ q, Query.ofParams wrapping = .ok q ∧ q.window.limit ≠ some 7 := by
  intro p p' wrapping c
  have compiled : mssql.compile "t" p = .ok c := by decide +kernel
  have agree : ∀ part ≠ Part.window, part.Agree p p' := by
    intro part other
    cases part with
    | window => exact absurd rfl other
    | _ => decide +kernel
  have counts : p.count? Directive.limit.key = some 7 ∧ p'.count? Directive.limit.key = some 7 ∧
      p.count? Directive.offset.key = p'.count? Directive.offset.key ∧
      wrapping.count? Directive.limit.key = none := by
    decide +kernel
  obtain ⟨limit, limit', offset, none⟩ := counts
  obtain ⟨parsed, kept, shown, -, spelled⟩ := compile_counts p
  obtain ⟨q, numerals, -, read, -, written⟩ := shown mssql "t" c compiled
  have same := (spelled p' agree).2
    (fun n => by
      rw [← Params.count?_eq_some_iff, ← Params.count?_eq_some_iff, limit, limit'])
    (fun n => by rw [← Params.count?_eq_some_iff, ← Params.count?_eq_some_iff, offset])
  have accepted : Query.ofParams wrapping = .ok (Query.kept wrapping) :=
    Query.ofParams_eq_ok_iff.2 ⟨by decide +kernel, rfl⟩
  refine ⟨compiled, (same mssql "t").symm.trans compiled, ⟨q, numerals, read, ?_, written⟩, _,
    accepted, ?_⟩
  · rw [kept q read]
    exact (parsed 7).1.2 (Params.count?_eq_some_iff.1 limit)
  · intro seven
    have given := Params.count?_eq_some_iff.2 (((compile_counts wrapping).1 7).1.1 seven)
    rw [none] at given
    cases given

end Dialect

end FilterSql
