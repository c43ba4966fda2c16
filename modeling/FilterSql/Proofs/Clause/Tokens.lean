/-
# FilterSql.Proofs.Clause.Tokens -- from the text of a clause to its tokens

A scanner for SQL conditions: quoted names, words, comparison signs, punctuation and placeholders.
It reads one character at a time. A name, a word or a sign ends where the next character does not
belong to it, and a doubled closing mark inside a quoted name stands for the mark itself.

`Spells` relates a text to its tokens wherever it stands in front of other text. It is closed under
concatenation, so the tokens of a clause are found part by part. A quoted column spells its tokens
only in front of a character that does not continue it, which is why it comes with its neighbour.
-/

import FilterSql.Proofs.Statement.Sections

namespace FilterSql

namespace Clause

/-! ## Tokens -/

/-- A token of a condition, with something at each of its placeholders. -/
inductive Token (α : Type) where
  /-- A quoted name. -/
  | name (s : Text)
  /-- A word that is not quoted. -/
  | word (s : Text)
  /-- A comparison sign. -/
  | sign (s : Text)
  /-- A dot. -/
  | dot
  /-- A comma. -/
  | comma
  /-- An opening parenthesis. -/
  | opening
  /-- A closing parenthesis. -/
  | closing
  /-- A placeholder. -/
  | value (a : α)
  deriving DecidableEq

/-- What the scanner is in the middle of. -/
inductive Mode where
  /-- Nothing. -/
  | between
  /-- A quoted name. -/
  | quoted (s : Text)
  /-- A quoted name with a closing mark, which may turn out to be the first of two. -/
  | quotedEnd (s : Text)
  /-- A word. -/
  | word (s : Text)
  /-- A comparison sign. -/
  | sign (s : Text)
  deriving DecidableEq

/-- What the scanner knows: the tokens so far and its mode. -/
abbrev Scan := Option (List (Token Unit) × Mode)

/-- Does the character stand in comparison signs? -/
def isSignChar (c : Char) : Bool := ['=', '<', '>'].contains c

/-- Tokens in front of what the scanner knows. -/
def emit (tokens : List (Token Unit)) (scan : Scan) : Scan :=
  scan.map fun found => (tokens ++ found.1, found.2)

section Scanning

variable (caps : Capabilities)

/-- The first character of a token, or a blank. -/
def start (c : Char) : Scan :=
  if c = caps.openQuote then some ([], .quoted [])
  else if isNameStart c then some ([], .word [c])
  else if isSignChar c then some ([], .sign [c])
  else if Text.isBlank c then some ([], .between)
  else if c = '.' then some ([.dot], .between)
  else if c = ',' then some ([.comma], .between)
  else if c = '(' then some ([.opening], .between)
  else if c = ')' then some ([.closing], .between)
  else if c = '?' then some ([.value ()], .between)
  else none

/-- One character. -/
def step : Mode → Char → Scan
  | .between, c => start caps c
  | .quoted s, c =>
    if c = caps.closeQuote then some ([], .quotedEnd s) else some ([], .quoted (s ++ [c]))
  | .quotedEnd s, c =>
    if c = caps.closeQuote then some ([], .quoted (s ++ [c])) else emit [.name s] (start caps c)
  | .word s, c =>
    if isNameChar c then some ([], .word (s ++ [c])) else emit [.word s] (start caps c)
  | .sign s, c =>
    if isSignChar c then some ([], .sign (s ++ [c])) else emit [.sign s] (start caps c)

/-- All characters of a text. -/
def run : Mode → Text → Scan
  | mode, [] => some ([], mode)
  | mode, c :: rest => (step caps mode c).bind fun found => emit found.1 (run found.2 rest)

/-- The tokens at the end of a text; a quoted name must have been closed. -/
def Mode.finish : Mode → Option (List (Token Unit))
  | between => some []
  | quoted _ => none
  | quotedEnd s => some [.name s]
  | word s => some [.word s]
  | sign s => some [.sign s]

/-- The tokens of a text. -/
def tokens? (s : Text) : Option (List (Token Unit)) :=
  (run caps .between s).bind fun found => found.2.finish.map (found.1 ++ ·)

/-! ## Texts and their tokens -/

/-- Whatever follows it, the text gives these tokens and leaves the scanner between tokens. -/
def Spells (s : Text) (tokens : List (Token Unit)) : Prop :=
  ∀ rest, run caps .between (s ++ rest) = emit tokens (run caps .between rest)

end Scanning

theorem emit_emit (first second : List (Token Unit)) (scan : Scan) :
    emit first (emit second scan) = emit (first ++ second) scan := by
  cases scan with
  | none => rfl
  | some found => simp [emit]

@[simp]
theorem emit_nil (scan : Scan) : emit [] scan = scan := by
  cases scan <;> rfl

variable {caps : Capabilities}

/-- A text is scanned from where the text before it was left. -/
theorem run_append (mode : Mode) (s t : Text) :
    run caps mode (s ++ t) =
      (run caps mode s).bind fun found => emit found.1 (run caps found.2 t) := by
  -- By induction on the first text, for whatever mode the characters so far have led to.
  induction s generalizing mode with
  | nil => simp [run]
  | cons c s ih =>
    rw [List.cons_append, run, run]
    cases step caps mode c with
    | none => rfl
    | some found =>
      rw [Option.bind_some, Option.bind_some, ih]
      cases run caps found.2 s with
      | none => rfl
      | some later => exact emit_emit _ _ _

theorem spells_of_run {s : Text} {tokens : List (Token Unit)}
    (h : run caps .between s = some (tokens, .between)) : Spells caps s tokens := by
  intro rest
  rw [run_append, h]
  rfl

namespace Spells

variable {s t : Text} {first second : List (Token Unit)}

theorem nil : Spells caps [] [] := spells_of_run rfl

theorem append (hs : Spells caps s first) (ht : Spells caps t second) :
    Spells caps (s ++ t) (first ++ second) := by
  intro rest
  rw [List.append_assoc, hs, ht, emit_emit]

theorem tokens?_eq (h : Spells caps s first) : tokens? caps s = some first := by
  have whole := h []
  rw [List.append_nil] at whole
  simp [tokens?, whole, run, emit, Mode.finish]

/-- Parts joined by a separator spell their tokens joined by those of the separator. -/
theorem intercalate {α : Type} {write : α → Text} {read : α → List (Token Unit)} {items : List α}
    (separator : Spells caps s first) (h : ∀ item ∈ items, Spells caps (write item) (read item)) :
    Spells caps (s.intercalate (items.map write)) (first.intercalate (items.map read)) := by
  induction items with
  | nil => exact nil
  | cons item rest ih =>
    have head := h item (by simp)
    cases rest with
    | nil => simpa using head
    | cons next rest =>
      have others := ih fun i hi => h i (List.mem_cons_of_mem item hi)
      simp only [List.map_cons, List.intercalate_cons_cons] at others ⊢
      exact (head.append separator).append others

end Spells

/-! ## Quoted columns -/

/-- A name is read up to its closing mark. -/
theorem run_quoted (before : Text) {name : Text} (rest : Text) (h : caps.closeQuote ∉ name) :
    run caps (.quoted before) (name ++ caps.closeQuote :: rest) =
      run caps (.quotedEnd (before ++ name)) rest := by
  induction name generalizing before with
  | nil => simp [run, step]
  | cons c name ih =>
    rw [List.mem_cons, not_or] at h
    rw [List.cons_append, run, step, if_neg (Ne.symm h.1), Option.bind_some, emit_nil, ih _ h.2,
      List.append_assoc, List.singleton_append]

/-- A name between quotation marks is one token in front of anything but another closing mark. -/
theorem run_quotedName {name : Text} {c : Char} (rest : Text) (hn : caps.closeQuote ∉ name)
    (hc : c ≠ caps.closeQuote) :
    run caps .between (caps.openQuote :: (name ++ [caps.closeQuote]) ++ c :: rest) =
      emit [.name name] (run caps .between (c :: rest)) := by
  have opened : step caps .between caps.openQuote = some ([], .quoted []) := by
    simp [step, start]
  have closed : run caps (.quotedEnd name) (c :: rest) =
      emit [.name name] (run caps .between (c :: rest)) := by
    rw [run, run, step, step, if_neg hc]
    cases start caps c with
    | none => rfl
    | some found => exact (emit_emit _ _ _).symm
  rw [List.cons_append, run, opened, Option.bind_some, emit_nil, List.append_assoc,
    List.singleton_append, run_quoted [] _ hn, List.nil_append, closed]

/-- The tokens of a column: its names with dots between them. -/
def path {α : Type} (column : Text) : List (Token α) :=
  [Token.dot].intercalate ((column.splitOn '.').map fun name => [.name name])

theorem start_dot (regular : caps.Regular) : start caps '.' = some ([.dot], .between) := by
  rw [start, if_neg (regular.ne_openQuote rfl)]
  rfl

/-- Quoted names with dots between them spell their path in front of anything but a closing mark. -/
theorem run_quotedNames (regular : caps.Regular) {names : List Text} {c : Char} (rest : Text)
    (ne : names ≠ []) (h : ∀ name ∈ names, isName name = true) (hc : c ≠ caps.closeQuote) :
    run caps .between (['.'].intercalate
        (names.map fun name => caps.openQuote :: (name ++ [caps.closeQuote])) ++ c :: rest) =
      emit ([Token.dot].intercalate (names.map fun name => [.name name]))
        (run caps .between (c :: rest)) := by
  induction names with
  | nil => exact absurd rfl ne
  | cons name others ih =>
    have unquoted := regular.closeQuote_not_mem_of_isName (h name (by simp))
    by_cases last : others = []
    · rw [last, List.map_singleton, List.map_singleton, List.intercalate_singleton,
        List.intercalate_singleton]
      exact run_quotedName rest unquoted hc
    · have later := ih last fun n hn => h n (List.mem_cons_of_mem name hn)
      -- Behind the first name stands the dot, which is not its closing mark doubled.
      have dot : '.' ≠ caps.closeQuote := regular.ne_closeQuote rfl
      rw [List.map_cons, List.map_cons, List.intercalate_cons_of_ne_nil (by simpa using last),
        List.intercalate_cons_of_ne_nil (by simpa using last), List.append_assoc,
        List.append_assoc, List.singleton_append, run_quotedName _ unquoted dot, run, step,
        start_dot regular, Option.bind_some, later, emit_emit, emit_emit]

/-- A quoted column in front of a text that does not go on with a closing mark. -/
theorem Spells.quote_append (regular : caps.Regular) {column : Text} {c : Char} {t : Text}
    {tokens : List (Token Unit)} (hcolumn : isIdentifier column = true)
    (hc : c ≠ caps.closeQuote) (h : Spells caps (c :: t) tokens) :
    Spells caps (caps.quote column ++ c :: t) (path column ++ tokens) := by
  have names := List.all_eq_true.1 hcolumn
  have quoted : caps.quote column = ['.'].intercalate ((column.splitOn '.').map fun name =>
      caps.openQuote :: (name ++ [caps.closeQuote])) := by
    rw [Capabilities.quote, List.map_congr_left fun name hn =>
      regular.quoteSegment_of_isName (names name hn)]
  intro rest
  rw [quoted, List.append_assoc, List.cons_append,
    run_quotedNames regular _ (List.splitOn_ne_nil _ _) names hc, ← List.cons_append, h rest,
    emit_emit, path]

end Clause

end FilterSql
