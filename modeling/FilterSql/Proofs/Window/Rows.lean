/-
# FilterSql.Proofs.Window.Rows -- which rows a window leaves

Dialects write a window in different words and at different places: in front of the select list, at
the end of the statement, with a limit that stands for all rows, and a limit of zero without its
offset. This module reads those words back as an engine does and runs them on a list of rows. It
knows numerals and the words of SQL, and nothing of the code that writes a window.

`Dialect.pagedRows?_placement` says that every dialect leaves the rows that the window asks for, so
that pages of equal size have no row in common and leave none out.
-/

import Mathlib.Data.List.Basic
import FilterSql.Dialect
import FilterSql.Statement.Lines
import FilterSql.Statement.Window

namespace FilterSql

/-! ## The rows of a window -/

section Rows

variable {α : Type}

/-- The rows that a window asks for: those behind the offset, as many as the limit allows. -/
def Window.rows (w : Window) (rows : List α) : List α :=
  let behind := rows.drop (w.offset.elim 0 UInt64.toNat)
  match w.limit with
  | some n => behind.take n.toNat
  | none => behind

/-- The page with a number, counted from zero, where pages have `n` rows. -/
def Window.page (n : Count) (number : Nat) : Window :=
  { limit := some n, offset := some (UInt64.ofNat (number * n.toNat)) }

end Rows

/-! ## Reading the words of a window -/

namespace Paging

/-- A word of the texts that ask for a window. -/
inductive Word where
  /-- The word `TOP`. -/
  | top
  /-- The word `LIMIT`. -/
  | limit
  /-- The word `OFFSET`. -/
  | offset
  /-- The word `ROWS`. -/
  | rows
  /-- The word `FETCH`. -/
  | fetch
  /-- The word `NEXT`. -/
  | next
  /-- The word `ONLY`. -/
  | only
  /-- A numeral. -/
  | number (n : Nat)
  /-- A limit that is none. -/
  | unbounded
  deriving DecidableEq

/-- The spelling of the keywords. -/
def keywords : List (Text × Word) :=
  [("TOP", .top), ("LIMIT", .limit), ("OFFSET", .offset), ("ROWS", .rows), ("FETCH", .fetch),
    ("NEXT", .next), ("ONLY", .only)]

/-- The number that a text of decimal digits writes. -/
def numeral? (s : Text) : Option Nat :=
  if s ≠ [] ∧ s.all Char.isDigit then some (Nat.ofDigitChars 10 s 0) else none

/-- The word that a text spells. That `-1` is no limit is a rule of SQLite alone. -/
def word? (dialect : Dialect) (s : Text) : Option Word :=
  match keywords.find? fun entry => entry.1 = s with
  | some entry => some entry.2
  | none =>
    if dialect = .sqlite ∧ s = "-1" then some .unbounded else (numeral? s).map .number

/-- What an engine does with its rows. -/
inductive Step where
  /-- It keeps so many of the first rows. -/
  | keep (n : Nat)
  /-- It passes over so many of the first rows. -/
  | pass (m : Nat)
  deriving DecidableEq

/-- The steps that words ask for. -/
def steps? : List Word → Option (List Step)
  | [] => some []
  | .top :: .number n :: rest => (steps? rest).map (.keep n :: ·)
  | .limit :: .number n :: rest => (steps? rest).map (.keep n :: ·)
  | .limit :: .unbounded :: rest => steps? rest
  | .offset :: .number m :: .rows :: rest => (steps? rest).map (.pass m :: ·)
  | .offset :: .number m :: rest => (steps? rest).map (.pass m :: ·)
  | .fetch :: .next :: .number n :: .rows :: .only :: rest => (steps? rest).map (.keep n :: ·)
  | _ => none

/-- The steps that a text asks for, its words separated by spaces. -/
def read? (dialect : Dialect) (s : Text) : Option (List Step) :=
  (((s.splitOn ' ').filter (· ≠ [])).mapM (word? dialect)).bind steps?

section Run

variable {α : Type}

/-- The rows that are not passed over. -/
def Step.passOver (rows : List α) : Step → List α
  | keep _ => rows
  | pass m => rows.drop m

/-- The rows that are kept. -/
def Step.keepFirst (rows : List α) : Step → List α
  | keep n => rows.take n
  | pass _ => rows

/-- The rows that an engine returns. It passes over rows before it keeps any, in whatever order the
steps are written. -/
def run (steps : List Step) (rows : List α) : List α :=
  steps.foldl Step.keepFirst (steps.foldl Step.passOver rows)

end Run

/-! ### Words that are written -/

/-- The text is one word, and spells the given one. -/
structure Spells (dialect : Dialect) (s : Text) (word : Word) : Prop where
  /-- The word is read. -/
  read : word? dialect s = some word
  /-- No space is in it. -/
  unbroken : ' ' ∉ s
  /-- It is not empty. -/
  solid : s ≠ []

theorem spells_keyword (dialect : Dialect) {s : Text} {word : Word} (h : (s, word) ∈ keywords) :
    Spells dialect s word := by
  have all : ∀ e ∈ keywords, word? dialect e.1 = some e.2 ∧ ' ' ∉ e.1 ∧ e.1 ≠ [] := by
    cases dialect <;> decide
  obtain ⟨read, unbroken, solid⟩ := all _ h
  exact ⟨read, unbroken, solid⟩

theorem numeral?_toText (n : Count) : numeral? n.toText = some n.toNat := by
  have digits : n.toText.all Char.isDigit = true :=
    List.all_eq_true.2 fun _ hc => Count.isDigit_of_mem_toText hc
  have value : Nat.ofDigitChars 10 n.toText 0 = n.toNat := Nat.ofDigitChars_ten_toDigits
  rw [numeral?, if_pos ⟨Nat.toDigits_ne_nil, digits⟩, value]

/-- A count is written as one numeral, which is neither a keyword nor `-1`. -/
theorem spells_toText (dialect : Dialect) (n : Count) :
    Spells dialect n.toText (.number n.toNat) := by
  have digit : ∀ {s : Text}, n.toText = s → s.all Char.isDigit = true := by
    rintro s rfl
    exact List.all_eq_true.2 fun _ hc => Count.isDigit_of_mem_toText hc
  have keyword : keywords.find? (fun entry => entry.1 = n.toText) = none := by
    have letters : ∀ entry ∈ keywords, entry.1.all Char.isDigit = false := by decide
    rw [List.find?_eq_none]
    intro entry he same
    have digits := digit (of_decide_eq_true same).symm
    rw [letters entry he] at digits
    cases digits
  have signed : ¬ (dialect = .sqlite ∧ n.toText = "-1") := fun h =>
    absurd (digit h.2) (by decide)
  have read : word? dialect n.toText = some (.number n.toNat) := by
    rw [word?, keyword]
    dsimp only
    rw [if_neg signed, numeral?_toText]
    rfl
  have unbroken : ' ' ∉ n.toText := fun space =>
    absurd (Count.isDigit_of_mem_toText space) (by decide)
  exact ⟨read, unbroken, Nat.toDigits_ne_nil⟩

/-- A limit of `-1` is none where the engine says so. -/
theorem spells_unbounded : Spells .sqlite "-1" .unbounded := ⟨by decide, by decide, by decide⟩

/-- The phrase is written as the texts with a space between any two, and each spells its word. -/
structure Worded (dialect : Dialect) (phrase : Text) (texts : List Text) (words : List Word) :
    Prop where
  /-- The texts make up the phrase. -/
  joined : phrase = [' '].intercalate texts
  /-- There is one at least. -/
  nonempty : texts ≠ []
  /-- They spell the words. -/
  spelled : List.Forall₂ (Spells dialect) texts words

namespace Worded

variable {dialect : Dialect} {phrase : Text} {texts : List Text} {words : List Word}

/-- The phrase is taken apart into its texts, and these are read one by one. -/
theorem split_read (h : Worded dialect phrase texts words) :
    (phrase.splitOn ' ').filter (· ≠ []) = texts ∧ texts.mapM (word? dialect) = some words := by
  obtain ⟨rfl, ne, spelled⟩ := h
  have each : (∀ s ∈ texts, ' ' ∉ s) ∧ (∀ s ∈ texts, s ≠ []) ∧
      texts.mapM (word? dialect) = some words := by
    clear ne
    induction spelled with
    | nil => exact ⟨by simp, by simp, rfl⟩
    | cons first _ ih =>
      obtain ⟨unbroken, solid, read⟩ := ih
      refine ⟨List.forall_mem_cons.2 ⟨first.unbroken, unbroken⟩,
        List.forall_mem_cons.2 ⟨first.solid, solid⟩, ?_⟩
      rw [List.mapM_cons, first.read, read]
      rfl
  obtain ⟨unbroken, solid, read⟩ := each
  have kept : texts.filter (· ≠ []) = texts := by simpa [List.filter_eq_self] using solid
  rw [List.splitOn_intercalate ' ' unbroken ne]
  exact ⟨kept, read⟩

theorem read?_eq (h : Worded dialect phrase texts words) : read? dialect phrase = steps? words := by
  obtain ⟨split, read⟩ := h.split_read
  rw [read?, split, read]
  rfl

end Worded

/-! ### Phrases that are written -/

section Phrases

variable (dialect : Dialect) (n m : Count)

/-- A keyword and a count in front of other words. -/
theorem spells_counted {dialect : Dialect} {s : Text} {word : Word} {texts : List Text}
    {words : List Word} (h : (s, word) ∈ keywords)
    (rest : List.Forall₂ (Spells dialect) texts words) :
    List.Forall₂ (Spells dialect) (s :: n.toText :: texts) (word :: .number n.toNat :: words) :=
  .cons (spells_keyword dialect h) (.cons (spells_toText dialect n) rest)

theorem worded_top : Worded dialect ("TOP ".toList ++ n.toText) ["TOP", n.toText]
    [.top, .number n.toNat] where
  joined := by simp
  nonempty := by simp
  spelled := spells_counted n (by decide) .nil

theorem worded_limit : Worded dialect ("LIMIT ".toList ++ n.toText) ["LIMIT", n.toText]
    [.limit, .number n.toNat] where
  joined := by simp
  nonempty := by simp
  spelled := spells_counted n (by decide) .nil

theorem worded_limit_offset :
    Worded dialect ("LIMIT ".toList ++ n.toText ++ " OFFSET ".toList ++ m.toText)
      ["LIMIT", n.toText, "OFFSET", m.toText]
      [.limit, .number n.toNat, .offset, .number m.toNat] where
  joined := by simp [List.intercalate_cons_cons]
  nonempty := by simp
  spelled := spells_counted n (by decide) (spells_counted m (by decide) .nil)

/-- SQLite reads an offset behind no limit. -/
theorem worded_unbounded_offset :
    Worded .sqlite ("LIMIT ".toList ++ "-1".toList ++ " OFFSET ".toList ++ m.toText)
      ["LIMIT", "-1", "OFFSET", m.toText] [.limit, .unbounded, .offset, .number m.toNat] where
  joined := by simp [List.intercalate_cons_cons]
  nonempty := by simp
  spelled := .cons (spells_keyword .sqlite (by decide))
    (.cons spells_unbounded (spells_counted m (by decide) .nil))

theorem worded_offset : Worded dialect ("OFFSET ".toList ++ m.toText) ["OFFSET", m.toText]
    [.offset, .number m.toNat] where
  joined := by simp
  nonempty := by simp
  spelled := spells_counted m (by decide) .nil

theorem worded_fetch_none : Worded dialect (Window.fetch none m) ["OFFSET", m.toText, "ROWS"]
    [.offset, .number m.toNat, .rows] where
  joined := by simp [Window.fetch_none, List.intercalate_cons_cons]
  nonempty := by simp
  spelled := spells_counted m (by decide) (.cons (spells_keyword dialect (by decide)) .nil)

theorem worded_fetch_some :
    Worded dialect (Window.fetch (some n) m)
      ["OFFSET", m.toText, "ROWS", "FETCH", "NEXT", n.toText, "ROWS", "ONLY"]
      [.offset, .number m.toNat, .rows, .fetch, .next, .number n.toNat, .rows, .only] where
  joined := by simp [Window.fetch_some, List.intercalate_cons_cons]
  nonempty := by simp
  spelled := by
    have keyword : ∀ {s : Text} {word : Word}, (s, word) ∈ keywords → Spells dialect s word :=
      spells_keyword dialect
    refine spells_counted m (by decide) (.cons (keyword (by decide)) ?_)
    refine .cons (keyword (by decide)) (spells_counted n (by decide) ?_)
    exact .cons (keyword (by decide)) (.cons (keyword (by decide)) .nil)

end Phrases

end Paging

/-! ## The rows that a statement returns -/

namespace Placement

/-- What is written in front of the select list. -/
def front? (placement : Placement) : Option Text := placement.top.map fun n => "TOP " ++ n.toText

/-- All that is written for a window. -/
def phrases (placement : Placement) : List Text :=
  placement.front?.toList ++ placement.suffix.toList

end Placement

/-- The front stands between the keyword and the select list. -/
theorem selectPart_eq_front (caps : Capabilities) (projection : List Projection) (exclude : Bool)
    (placement : Placement) :
    selectPart caps projection exclude placement.top =
      "SELECT ".toList ++ placement.front?.elim [] (fun front => front ++ " ".toList) ++
        selectList caps projection exclude := by
  unfold selectPart Placement.front?
  cases placement.top with
  | none => rfl
  | some n => rfl

namespace Dialect

variable {α : Type}

/-- The rows that a dialect returns for a window: its engine reads all that is written for it. -/
def pagedRows? (dialect : Dialect) (w : Window) (rows : List α) : Option (List α) :=
  ((w.placement dialect.capabilities).phrases.mapM (Paging.read? dialect)).map fun steps =>
    Paging.run steps.flatten rows

variable {dialect : Dialect} {w : Window} {rows : List α}

theorem pagedRows?_of_phrases_nil (h : (w.placement dialect.capabilities).phrases = []) :
    dialect.pagedRows? w rows = some rows := by
  rw [pagedRows?, h]
  rfl

theorem pagedRows?_of_phrases_singleton {phrase : Text} {steps : List Paging.Step}
    (h : (w.placement dialect.capabilities).phrases = [phrase])
    (read : Paging.read? dialect phrase = some steps) :
    dialect.pagedRows? w rows = some (Paging.run steps rows) := by
  rw [pagedRows?, h, List.mapM_cons, read]
  simp

/-- A limit that no list of rows exceeds is none. -/
theorem take_drop_of_length_le {n : Nat} (m : Nat) (h : rows.length ≤ n) :
    (rows.drop m).take n = rows.drop m := by
  apply List.take_of_length_le
  rw [List.length_drop]
  omega

theorem phrases_limitOffset (w : Window) (h : dialect.capabilities.window = .limitOffset) :
    (w.placement dialect.capabilities).phrases = (w.limitOffset? dialect.capabilities).toList := by
  unfold Window.placement
  rw [h]
  rfl

/-- A bare offset is written alone, behind the greatest of all counts, or behind a limit that is
none. -/
theorem pagedRows?_offset (m : Count) (fits : rows.length < UInt64.size)
    (h : dialect.capabilities.window = .limitOffset) :
    dialect.pagedRows? ⟨none, some m⟩ rows = some (rows.drop m.toNat) := by
  have phrases := phrases_limitOffset ⟨none, some m⟩ h
  cases dialect with
  | postgres =>
    rw [Window.limitOffset?_offset m rfl] at phrases
    exact pagedRows?_of_phrases_singleton phrases (Paging.worded_offset _ m).read?_eq
  | mysql =>
    have greatest : "18446744073709551615".toList = (18446744073709551615 : Count).toText := by
      decide +kernel
    rw [Window.limitOffset?_unbounded_offset m rfl, greatest] at phrases
    rw [pagedRows?_of_phrases_singleton phrases (Paging.worded_limit_offset _ _ m).read?_eq]
    exact congrArg some (take_drop_of_length_le m.toNat (Nat.le_of_lt_succ fits))
  | sqlite =>
    rw [Window.limitOffset?_unbounded_offset m rfl] at phrases
    exact pagedRows?_of_phrases_singleton phrases (Paging.worded_unbounded_offset m).read?_eq
  | mssql => cases h

/-- Dialects that write a window at the end of the statement return its rows. -/
theorem pagedRows?_limitOffset (w : Window) (fits : rows.length < UInt64.size)
    (h : dialect.capabilities.window = .limitOffset) :
    dialect.pagedRows? w rows = some (w.rows rows) := by
  have phrases := phrases_limitOffset w h
  obtain ⟨limit, offset⟩ := w
  cases limit with
  | none =>
    cases offset with
    | none => exact pagedRows?_of_phrases_nil phrases
    | some m => exact pagedRows?_offset m fits h
  | some n =>
    cases offset with
    | none =>
      rw [Window.limitOffset?_limit] at phrases
      exact pagedRows?_of_phrases_singleton phrases (Paging.worded_limit dialect n).read?_eq
    | some m =>
      rw [Window.limitOffset?_limit_offset] at phrases
      exact pagedRows?_of_phrases_singleton phrases
        (Paging.worded_limit_offset dialect n m).read?_eq

/-- So do dialects that write a bare limit in front of the select list. -/
theorem pagedRows?_topFetch (w : Window) (h : dialect.capabilities.window = .topFetch) :
    dialect.pagedRows? w rows = some (w.rows rows) := by
  obtain ⟨limit, offset⟩ := w
  cases offset with
  | none =>
    have placement :
        Window.placement dialect.capabilities ⟨limit, none⟩ = ⟨limit, none, false⟩ := by
      rw [Window.placement, h]
    cases limit with
    | none =>
      apply pagedRows?_of_phrases_nil
      rw [placement]
      rfl
    | some n =>
      refine pagedRows?_of_phrases_singleton ?_ (Paging.worded_top dialect n).read?_eq
      rw [placement]
      rfl
  | some m =>
    by_cases zero : limit = some 0
    · -- Only the limit is written, and no row is left whatever the offset.
      subst zero
      have placement : Window.placement dialect.capabilities ⟨some 0, some m⟩ =
          ⟨some 0, none, false⟩ := by
        rw [Window.placement, h]
        rfl
      have phrases : (Window.placement dialect.capabilities ⟨some 0, some m⟩).phrases =
          ["TOP ".toList ++ (0 : Count).toText] := by
        rw [placement]
        rfl
      rw [pagedRows?_of_phrases_singleton phrases (Paging.worded_top dialect 0).read?_eq]
      have none_left : (Window.mk (some 0) (some m)).rows rows = rows.take (0 : Count).toNat := by
        simp [Window.rows]
      exact congrArg some none_left.symm
    · have placement : Window.placement dialect.capabilities ⟨limit, some m⟩ =
          ⟨none, some (Window.fetch limit m), dialect.capabilities.offsetNeedsOrder⟩ := by
        rw [Window.placement, h]
        simp [zero]
      have phrases : (Window.placement dialect.capabilities ⟨limit, some m⟩).phrases =
          [Window.fetch limit m] := by
        rw [placement]
        rfl
      cases limit with
      | none =>
        exact pagedRows?_of_phrases_singleton phrases
          (Paging.worded_fetch_none dialect m).read?_eq
      | some n =>
        exact pagedRows?_of_phrases_singleton phrases
          (Paging.worded_fetch_some dialect n m).read?_eq

/-- Every dialect returns the rows that a window asks for. -/
theorem pagedRows?_eq (w : Window) (fits : rows.length < UInt64.size) :
    dialect.pagedRows? w rows = some (w.rows rows) := by
  cases written : dialect.capabilities.window with
  | limitOffset => exact pagedRows?_limitOffset w fits written
  | topFetch => exact pagedRows?_topFetch w written

end Dialect

/-! ## Pages -/

section Pages

variable {α : Type} {rows : List α}

theorem mem_take_drop_iff {l : List α} {m n : Nat} {a : α} :
    a ∈ (l.drop m).take n ↔ ∃ i, m ≤ i ∧ i < m + n ∧ l[i]? = some a := by
  rw [List.mem_iff_getElem?]
  constructor
  · rintro ⟨i, h⟩
    rw [List.getElem?_take] at h
    split at h
    · next inside =>
      rw [List.getElem?_drop] at h
      exact ⟨m + i, Nat.le_add_right m i, Nat.add_lt_add_left inside m, h⟩
    · cases h
  · rintro ⟨i, low, high, h⟩
    refine ⟨i - m, ?_⟩
    have inside : i - m < n := by omega
    have back : m + (i - m) = i := by omega
    rw [List.getElem?_take, if_pos inside, List.getElem?_drop, back, h]

/-- A page has the rows whose positions, counted in whole pages, have its number. -/
theorem Window.mem_rows_page_iff {n : Count} {number : Nat} (positive : 0 < n.toNat)
    (within : number * n.toNat < UInt64.size) {row : α × Nat} :
    row ∈ (page n number).rows rows.zipIdx ↔ row ∈ rows.zipIdx ∧ row.2 / n.toNat = number := by
  have offset : (UInt64.ofNat (number * n.toNat)).toNat = number * n.toNat :=
    UInt64.toNat_ofNat_of_lt' within
  have position : ∀ {i : Nat}, rows.zipIdx[i]? = some row → row.2 = i := by
    intro i h
    rw [List.getElem?_zipIdx, Option.map_eq_some_iff] at h
    obtain ⟨a, -, rfl⟩ := h
    exact Nat.zero_add i
  have inside : ∀ i : Nat, (number * n.toNat ≤ i ∧ i < number * n.toNat + n.toNat) ↔
      i / n.toNat = number := by
    intro i
    rw [Nat.div_eq_iff positive]
    omega
  simp only [page, Window.rows, Option.elim_some, offset, mem_take_drop_iff]
  constructor
  · rintro ⟨i, low, high, h⟩
    refine ⟨List.mem_of_getElem? h, ?_⟩
    rw [position h]
    exact (inside i).1 ⟨low, high⟩
  · rintro ⟨mem, same⟩
    obtain ⟨i, h⟩ := List.mem_iff_getElem?.1 mem
    rw [position h] at same
    obtain ⟨low, high⟩ := (inside i).2 same
    exact ⟨i, low, high, h⟩

end Pages

/-- All dialects describe the same rows. What is written in front of the select list and at the end
of the statement makes an engine return the rows that the window asks for, whatever the dialect.
Pages of equal size, each row told from its likes by its position, have no row in common, and every
row is on one of them. -/
theorem Dialect.pagedRows?_placement {α : Type} (rows : List α) (fits : rows.length < UInt64.size) :
    (∀ (dialect : Dialect) (w : Window) (projection : List Projection) (exclude : Bool),
        let placement := w.placement dialect.capabilities
        selectPart dialect.capabilities projection exclude placement.top =
          "SELECT ".toList ++ placement.front?.elim [] (fun front => front ++ " ".toList) ++
            selectList dialect.capabilities projection exclude) ∧
      (∀ (dialect : Dialect) (w : Window), dialect.pagedRows? w rows = some (w.rows rows)) ∧
      (∀ (dialect other : Dialect) (w : Window),
        dialect.pagedRows? w rows = other.pagedRows? w rows) ∧
      ∀ (dialect : Dialect) (n : Count), 0 < n →
        (∀ (k l : Nat) (first second : List (α × Nat)), k ≠ l →
          k * n.toNat < UInt64.size → l * n.toNat < UInt64.size →
          dialect.pagedRows? (Window.page n k) rows.zipIdx = some first →
          dialect.pagedRows? (Window.page n l) rows.zipIdx = some second →
          first.Disjoint second) ∧
        (∀ row ∈ rows.zipIdx, ∃ (k : Nat) (page : List (α × Nat)), k * n.toNat < UInt64.size ∧
          dialect.pagedRows? (Window.page n k) rows.zipIdx = some page ∧ row ∈ page) := by
  have same : ∀ (dialect : Dialect) (w : Window), dialect.pagedRows? w rows = some (w.rows rows) :=
    fun _ w => pagedRows?_eq w fits
  have numbered : ∀ (dialect : Dialect) (w : Window),
      dialect.pagedRows? w rows.zipIdx = some (w.rows rows.zipIdx) := fun _ w =>
    pagedRows?_eq w (List.length_zipIdx.symm ▸ fits)
  refine ⟨fun dialect w projection exclude => selectPart_eq_front _ projection exclude _, same,
    fun dialect other w => (same dialect w).trans (same other w).symm,
    fun dialect n positive => ⟨?_, ?_⟩⟩
  · intro k l first second distinct withinK withinL readFirst readSecond row onFirst onSecond
    have positive : 0 < n.toNat := UInt64.lt_iff_toNat_lt.1 positive
    rw [numbered, Option.some.injEq] at readFirst readSecond
    rw [← readFirst, Window.mem_rows_page_iff positive withinK] at onFirst
    rw [← readSecond, Window.mem_rows_page_iff positive withinL] at onSecond
    exact distinct (onFirst.2.symm.trans onSecond.2)
  · intro row mem
    have positive : 0 < n.toNat := UInt64.lt_iff_toNat_lt.1 positive
    -- The page is that of the position, whose first position is a count because a later one is.
    have position : row.2 < rows.length := List.snd_lt_of_mem_zipIdx mem
    have within : row.2 / n.toNat * n.toNat < UInt64.size :=
      Nat.lt_of_le_of_lt (Nat.div_mul_le_self _ _) (Nat.lt_trans position fits)
    refine ⟨row.2 / n.toNat, _, within, numbered dialect _, ?_⟩
    exact (Window.mem_rows_page_iff positive within).2 ⟨mem, rfl⟩

/-- The fourth and the fifth of five rows, as one dialect and another writes them, and a limit of
zero that drops its offset. -/
theorem Dialect.pagedRows?_placement_last :
    let rows := ["a", "b", "c", "d", "e"]
    rows.length < UInt64.size ∧
      mssql.pagedRows? ⟨some 2, some 3⟩ rows = some ["d", "e"] ∧
      mysql.pagedRows? ⟨none, some 3⟩ rows = some ["d", "e"] ∧
      mssql.pagedRows? ⟨some 0, some 3⟩ rows = some [] := by
  intro rows
  have fits : rows.length < UInt64.size := by decide
  obtain ⟨-, same, -⟩ := pagedRows?_placement rows fits
  exact ⟨fits, same mssql _, same mysql _, same mssql _⟩

end FilterSql
