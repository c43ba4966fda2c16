/-
# FilterSql.Proofs.Text.Unquoting -- texts between quotation marks are read back

A reader of texts between quotation marks takes one character after the other off the front, and
escapes are the business of the reader of one character. Whatever escapes a writer uses, when each
character is read back in front of anything, so is the whole text, and the reader stops at the mark
that ends it: `between_flatMap`.

For the escapes of messages and console lines this says that different texts look different, and
with the printed characters that a quoted text consists of, that each is one line without controls.
Numbers in escapes are hexadecimal.
-/

import Mathlib.Tactic.SplitIfs
import FilterSql.Text.Quoted
import FilterSql.Proofs.Text.Cuts

namespace FilterSql

namespace Text

/-! ## Hexadecimal numbers -/

/-- The value of a hexadecimal digit, small or capital. -/
def hexDigit? (c : Char) : Option Nat :=
  if '0' ≤ c ∧ c ≤ '9' then some (c.toNat - '0'.toNat)
  else if 'a' ≤ c ∧ c ≤ 'f' then some (c.toNat - 'a'.toNat + 10)
  else if 'A' ≤ c ∧ c ≤ 'F' then some (c.toNat - 'A'.toNat + 10)
  else none

/-- The number that hexadecimal digits stand for. -/
def hex? (s : Text) : Option Nat :=
  s.foldlM (fun n c => (hexDigit? c).map (16 * n + ·)) 0

theorem hexDigit?_digitChar {d : Nat} (h : d < 16) : hexDigit? d.digitChar = some d := by
  have all : ∀ d < 16, hexDigit? (Nat.digitChar d) = some d := by decide
  exact all d h

theorem hex?_concat (s : Text) (c : Char) :
    hex? (s ++ [c]) = (hex? s).bind fun n => (hexDigit? c).map (16 * n + ·) := by
  rw [hex?, List.foldlM_append]
  cases h : s.foldlM (fun n c => (hexDigit? c).map (16 * n + ·)) 0 with
  | none => simp [hex?, h]
  | some n => simp [hex?, h]

theorem hex?_toDigits (n : Nat) : hex? (Nat.toDigits 16 n) = some n := by
  induction n using Nat.strongRecOn with
  | ind n ih =>
    rw [Nat.toDigits_eq_if (by decide)]
    split
    · next small => simp [hex?, hexDigit?_digitChar small]
    · next large =>
      rw [hex?_concat, ih (n / 16) (by omega), hexDigit?_digitChar (Nat.mod_lt n (by decide)),
        Option.bind_some, Option.map_some, Nat.div_add_mod]

theorem exists_of_mem_toDigits {n : Nat} {c : Char} (h : c ∈ Nat.toDigits 16 n) :
    ∃ d < 16, c = Nat.digitChar d := by
  induction n using Nat.strongRecOn with
  | ind n ih =>
    rw [Nat.toDigits_eq_if (by decide)] at h
    split at h
    · next small => exact ⟨n, small, List.mem_singleton.1 h⟩
    · next large =>
      rcases List.mem_append.1 h with h | h
      · exact ih (n / 16) (by omega) h
      · exact ⟨n % 16, Nat.mod_lt n (by decide), List.mem_singleton.1 h⟩

/-! ## Readers -/

/-- A reader takes what it reads off the front of a text. -/
abbrev Reader (α : Type) := Text → Option (α × Text)

/-- The characters in front of the next quotation mark that is none of them. The fuel is a bound on
their number. -/
def untilQuote (one : Reader Char) : Nat → Reader Text
  | 0, _ => none
  | _ + 1, [] => none
  | fuel + 1, c :: rest =>
    if c = '"' then some ([], rest)
    else (one (c :: rest)).bind fun first =>
      (untilQuote one fuel first.2).map fun others => (first.1 :: others.1, others.2)

/-- A text between quotation marks. -/
def between (one : Reader Char) : Reader Text
  | '"' :: rest => untilQuote one (rest.length + 1) rest
  | _ => none

/-- A way to write characters that a reader reads back whatever follows. No character is written
with a quotation mark in front. -/
structure Invertible (one : Reader Char) (write : Char → Text) : Prop where
  /-- Every character is read back. -/
  read : ∀ (c : Char) (rest : Text), one (write c ++ rest) = some (c, rest)
  /-- None is taken for the end of the text. -/
  goesOn : ∀ c : Char, ∃ (d : Char) (others : Text), write c = d :: others ∧ d ≠ '"'

section Invertible

variable {one : Reader Char} {write : Char → Text} (h : Invertible one write)

include h

theorem length_le_length_flatMap (s : Text) : s.length ≤ (s.flatMap write).length := by
  induction s with
  | nil => exact Nat.zero_le _
  | cons c s ih =>
    obtain ⟨d, others, whole, -⟩ := h.goesOn c
    rw [List.flatMap_cons, List.length_append, whole, List.length_cons, List.length_cons]
    omega

theorem untilQuote_flatMap {fuel : Nat} (s rest : Text) (enough : s.length < fuel) :
    untilQuote one fuel (s.flatMap write ++ '"' :: rest) = some (s, rest) := by
  induction s generalizing fuel with
  | nil =>
    obtain ⟨fuel, rfl⟩ : ∃ n, fuel = n + 1 := ⟨fuel - 1, by omega⟩
    rw [List.flatMap_nil, List.nil_append, untilQuote, if_pos rfl]
  | cons c s ih =>
    rw [List.length_cons] at enough
    obtain ⟨fuel, rfl⟩ : ∃ n, fuel = n + 1 := ⟨fuel - 1, by omega⟩
    obtain ⟨d, others, whole, other⟩ := h.goesOn c
    have read := h.read c (s.flatMap write ++ '"' :: rest)
    rw [whole] at read
    rw [List.flatMap_cons, List.append_assoc, whole, List.cons_append, untilQuote, if_neg other,
      ← List.cons_append, read, Option.bind_some, ih (by omega)]
    rfl

/-- A text between quotation marks is read back whatever follows. -/
theorem between_flatMap (s rest : Text) :
    between one ('"' :: (s.flatMap write ++ '"' :: rest)) = some (s, rest) := by
  have shorter := length_le_length_flatMap h s
  rw [between, untilQuote_flatMap h s rest]
  rw [List.length_append]
  omega

end Invertible

/-! ## Quoted texts -/

/-- The escapes of one character. -/
def shortEscapes : List (Char × Char) :=
  [('"', '"'), ('\\', '\\'), ('n', '\n'), ('r', '\r'), ('t', '\t'), ('0', '\x00')]

/-- One character of a quoted text. -/
def quotedChar? : Reader Char
  | '\\' :: 'u' :: '\x7b' :: rest =>
    (cut? ['\x7d'] rest).bind fun (digits, rest) =>
      (hex? digits).map fun n => (Char.ofNat n, rest)
  | '\\' :: c :: rest => (shortEscapes.lookup c).map (·, rest)
  | ['\\'] => none
  | c :: rest => some (c, rest)
  | [] => none

/-- The text that is shown between quotation marks in front of others. -/
def unquoted? : Reader Text := between quotedChar?

/-- A character is written with a short escape, by number, or as it stands. -/
theorem quotedChar_cases (c : Char) :
    (∃ mark, (mark, c) ∈ shortEscapes ∧ quotedChar c = ['\\', mark]) ∨
      quotedChar c = numbered c ∨
        ((c ≠ '"' ∧ c ≠ '\\') ∧ (isExtending c || isUnprintable c) = false ∧
          quotedChar c = [c]) := by
  unfold quotedChar
  split_ifs with mark backslash newline returns tab zero hidden
  · exact .inl ⟨'"', by rw [mark]; decide, rfl⟩
  · exact .inl ⟨'\\', by rw [backslash]; decide, rfl⟩
  · exact .inl ⟨'n', by rw [newline]; decide, rfl⟩
  · exact .inl ⟨'r', by rw [returns]; decide, rfl⟩
  · exact .inl ⟨'t', by rw [tab]; decide, rfl⟩
  · exact .inl ⟨'0', by rw [zero]; decide, rfl⟩
  · exact .inr (.inl rfl)
  · exact .inr (.inr ⟨⟨mark, backslash⟩, Bool.eq_false_iff.2 hidden, rfl⟩)

theorem quotedChar?_escape {mark c : Char} (h : (mark, c) ∈ shortEscapes) (rest : Text) :
    quotedChar? ('\\' :: mark :: rest) = some (c, rest) := by
  have all : ∀ e ∈ shortEscapes, e.1 ≠ 'u' ∧ shortEscapes.lookup e.1 = some e.2 := by decide
  obtain ⟨other, found⟩ := all _ h
  rw [quotedChar?, found]
  · rfl
  · exact fun _ same => absurd same other

theorem quotedChar?_numbered (c : Char) (rest : Text) :
    quotedChar? (numbered c ++ rest) = some (c, rest) := by
  have unclosed : '\x7d' ∉ Nat.toDigits 16 c.toNat := by
    intro mem
    obtain ⟨d, small, same⟩ := exists_of_mem_toDigits mem
    have all : ∀ d < 16, '\x7d' ≠ Nat.digitChar d := by decide
    exact all d small same
  have start : numbered c ++ rest =
      '\\' :: 'u' :: '\x7b' :: (Nat.toDigits 16 c.toNat ++ '\x7d' :: rest) := by
    simp [numbered]
  rw [start, quotedChar?, cut?_append rest unclosed, Option.bind_some]
  dsimp only
  rw [hex?_toDigits, Option.map_some, Char.ofNat_toNat]

theorem quotedChar?_of_ne {c : Char} (h : c ≠ '\\') (rest : Text) :
    quotedChar? (c :: rest) = some (c, rest) := by
  unfold quotedChar?
  split <;> simp_all

theorem invertible_quotedChar : Invertible quotedChar? quotedChar where
  read c rest := by
    rcases quotedChar_cases c with ⟨mark, escape, whole⟩ | whole | ⟨⟨-, other⟩, -, whole⟩
    · exact whole ▸ quotedChar?_escape escape rest
    · exact whole ▸ quotedChar?_numbered c rest
    · exact whole ▸ quotedChar?_of_ne other rest
  goesOn c := by
    rcases quotedChar_cases c with ⟨mark, -, whole⟩ | whole | ⟨⟨other, -⟩, -, whole⟩
    · exact ⟨'\\', [mark], whole, by decide⟩
    · exact ⟨'\\', _, whole, by decide⟩
    · exact ⟨c, [], whole, other⟩

/-- A quoted text is read back whatever follows. -/
theorem unquoted?_quoted_append (s rest : Text) :
    unquoted? (quoted s ++ rest) = some (s, rest) := by
  have whole : quoted s ++ rest = '"' :: (s.flatMap quotedChar ++ '"' :: rest) := by
    simp [quoted]
  rw [whole]
  exact between_flatMap invertible_quotedChar s rest

/-! ## What shows -/

/-- Does the character show, and by itself? -/
def isShown (c : Char) : Bool := !(isExtending c || isUnprintable c)

/-- Is the character a printed one of ASCII? -/
def isPrinted (c : Char) : Bool := 0x20 ≤ c.toNat && c.toNat < 0x7F

theorem any_between_eq_false_iff {ranges : List (Nat × Nat)} {n : Nat} :
    (ranges.any fun range => range.1 ≤ n && n ≤ range.2) = false ↔
      ∀ range ∈ ranges, ¬ (range.1 ≤ n ∧ n ≤ range.2) := by
  simp

theorem isShown_of_isPrinted {c : Char} (h : isPrinted c = true) : isShown c = true := by
  rw [isPrinted, Bool.and_eq_true, decide_eq_true_eq, decide_eq_true_eq] at h
  have outside : ∀ ranges ∈ [extendingRanges, unprintableRanges],
      (ranges.any fun range => range.1 ≤ c.toNat && c.toNat ≤ range.2) = false := by
    have all : [extendingRanges, unprintableRanges].all (fun ranges =>
        ranges.all fun range => range.2 < 0x20 || 0x7F ≤ range.1) = true := by decide +kernel
    intro ranges listed
    refine any_between_eq_false_iff.2 fun range mem => ?_
    have apart := List.all_eq_true.1 (List.all_eq_true.1 all ranges listed) range mem
    rw [Bool.or_eq_true, decide_eq_true_eq, decide_eq_true_eq] at apart
    omega
  have letter : fillers.contains c = false := by
    rw [List.contains_eq_mem, decide_eq_false_iff_not]
    intro mem
    have far : fillers.all (fun filler => 0x7F ≤ filler.toNat) = true := by decide
    have := of_decide_eq_true (List.all_eq_true.1 far c mem)
    omega
  rw [isShown, isExtending, isUnprintable, outside _ (by simp), outside _ (by simp), letter]
  rfl

theorem isShown_of_mem_quotedChar {c d : Char} (h : d ∈ quotedChar c) : isShown d = true := by
  rcases quotedChar_cases c with ⟨mark, escape, whole⟩ | whole | ⟨-, shown, whole⟩
  · have all : shortEscapes.all (fun e => ['\\', e.1].all isPrinted) = true := by decide
    have printed := List.all_eq_true.1 all _ escape
    exact isShown_of_isPrinted (List.all_eq_true.1 printed d (whole ▸ h))
  · have digits : ∀ n < 16, isPrinted (Nat.digitChar n) = true := by decide
    rw [whole, numbered, List.mem_cons, List.mem_cons, List.mem_cons, List.mem_append,
      List.mem_singleton] at h
    apply isShown_of_isPrinted
    rcases h with rfl | rfl | rfl | h | rfl
    · rfl
    · rfl
    · rfl
    · obtain ⟨n, small, rfl⟩ := exists_of_mem_toDigits h
      exact digits n small
    · rfl
  · rw [whole, List.mem_singleton] at h
    rw [h, isShown, shown]
    rfl

/-- A quoted text consists of characters that show. -/
theorem isShown_of_mem_quoted {s : Text} {c : Char} (h : c ∈ quoted s) : isShown c = true := by
  rw [quoted, List.mem_cons, List.mem_append, List.mem_flatMap, List.mem_singleton] at h
  rcases h with rfl | ⟨d, -, h⟩ | rfl
  · exact isShown_of_isPrinted rfl
  · exact isShown_of_mem_quotedChar h
  · exact isShown_of_isPrinted rfl

/-- No control shows. -/
theorem not_control_of_isShown {c : Char} (h : isShown c = true) :
    0x20 ≤ c.toNat ∧ c.toNat ≠ 0x7F := by
  rw [isShown, Bool.not_eq_true', Bool.or_eq_false_iff, isUnprintable, Bool.or_eq_false_iff] at h
  have printable := any_between_eq_false_iff.1 h.2.2
  have low := printable (0x0, 0x1F) List.mem_cons_self
  have delete := printable (0x7F, 0xA0) (List.mem_cons_of_mem _ List.mem_cons_self)
  dsimp only at low delete
  omega

end Text

end FilterSql
