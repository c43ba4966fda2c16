/-
# FilterSql.Text.Basic -- texts and the blanks around them

A text is the list of its characters, so that every function on texts is a recursion on a list. This
module fixes the one notion of blank that the whole library shares, the Unicode property
White_Space, and the operation that takes blanks off both ends.

The byte order mark U+FEFF, the zero width space U+200B and the ASCII separators U+001C to U+001F do
not have the property and stay.
-/

namespace FilterSql

/-- A text is the list of its characters. -/
abbrev Text := List Char

/-- A string literal stands for its characters. -/
instance : Coe String Text := ⟨String.toList⟩

namespace Text

/-! ## Blanks -/

/-- Is the character blank: has it the Unicode property White_Space? -/
def isBlank (c : Char) : Bool :=
  (0x9 ≤ c.toNat && c.toNat ≤ 0xD) || c.toNat == 0x20 || c.toNat == 0x85 || c.toNat == 0xA0 ||
    c.toNat == 0x1680 || (0x2000 ≤ c.toNat && c.toNat ≤ 0x200A) || c.toNat == 0x2028 ||
    c.toNat == 0x2029 || c.toNat == 0x202F || c.toNat == 0x205F || c.toNat == 0x3000

/-- The text without the blanks it starts with. -/
def trimStart (s : Text) : Text := s.dropWhile isBlank

/-- The text without the blanks it ends with. -/
def trimEnd (s : Text) : Text := (s.reverse.dropWhile isBlank).reverse

/-- The text without the blanks at both of its ends. -/
def trim (s : Text) : Text := trimEnd (trimStart s)

@[simp]
theorem trim_nil : trim [] = [] := rfl

/-- A text that neither starts nor ends with a blank is its own trimmed form. -/
theorem trim_eq_self {s : Text} (first : ∀ c ∈ s.head?, isBlank c = false)
    (last : ∀ c ∈ s.getLast?, isBlank c = false) : trim s = s := by
  have start : trimStart s = s := by
    cases s with
    | nil => rfl
    | cons c r => simp [trimStart, first c (by simp)]
  have stop : trimEnd s = s := by
    unfold trimEnd
    cases h : s.reverse with
    | nil => simp_all
    | cons c r =>
      have hc : c ∈ s.getLast? := by rw [List.getLast?_eq_head?_reverse, h]; simp
      rw [List.dropWhile_cons, last c hc, ← h]
      simp
  rw [trim, start, stop]

/-! ## Letter case -/

/-- The text with its ASCII capitals made small; all other characters stay. -/
def lower (s : Text) : Text := s.map Char.toLower

end Text

end FilterSql
