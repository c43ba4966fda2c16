/-
# FilterSql.Text.Count -- row counts in decimal

A row count is a 64-bit word. It is read from ASCII digits behind at most one plus sign, with any
number of leading zeros; a number that does not fit into 64 bits is no count, however long its text.
It is written with the fewest digits.
-/

import FilterSql.Text.Basic

namespace FilterSql

/-- A number of rows. -/
abbrev Count := UInt64

namespace Count

/-- The number that decimal digits write, if it fits into 64 bits. -/
def ofDigits? (digits : Text) : Option Count :=
  let n := Nat.ofDigitChars 10 digits 0
  if fits : n < UInt64.size then some (UInt64.ofNatLT n fits) else none

/-- The count that a text writes. Neither blanks nor any sign but one leading plus are part of it.
-/
def ofText? (s : Text) : Option Count :=
  let digits := if s.head? = some '+' then s.tail else s
  if digits ≠ [] ∧ digits.all Char.isDigit then ofDigits? digits else none

/-- The shortest decimal numeral of a count. -/
def toText (n : Count) : Text := Nat.toDigits 10 n.toNat

/-- A count is written in digits. -/
theorem isDigit_of_mem_toText {n : Count} {c : Char} (h : c ∈ n.toText) : c.isDigit = true :=
  Nat.isDigit_of_mem_toDigits (by decide) (by decide) h

/-- The digits of a written count are read back as that count. -/
theorem ofDigits?_toText (n : Count) : ofDigits? n.toText = some n := by
  have h : Nat.ofDigitChars 10 n.toText 0 = n.toNat := Nat.ofDigitChars_ten_toDigits
  unfold ofDigits?
  simp only [h]
  rw [dif_pos n.toNat_lt_size]
  simp

end Count

end FilterSql
