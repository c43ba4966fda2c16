/-
# FilterSql.Identifier -- names that may stand in SQL text

A name starts with an ASCII letter or an underscore and goes on with ASCII letters, digits and
underscores. An identifier is one or more names with a dot between neighbours. Nothing else is an
identifier: no letter outside ASCII, no quotation mark, and no line break at the end.
-/

import FilterSql.Error

namespace FilterSql

/-- May the character stand first in a name? -/
def isNameStart (c : Char) : Bool := c.isAlpha || c = '_'

/-- May the character stand in a name? -/
def isNameChar (c : Char) : Bool := c.isAlphanum || c = '_'

/-- Is the text a name? -/
def isName : Text → Bool
  | [] => false
  | c :: rest => isNameStart c && rest.all isNameChar

/-- Is the text an identifier? It is when every segment between dots is a name. -/
def isIdentifier (s : Text) : Bool := (s.splitOn '.').all isName

/-- The identifier itself, or the refusal of what is none. -/
def checkIdentifier (s : Text) : Except QueryError Text :=
  if isIdentifier s then .ok s else .error (.invalidIdentifier s)

/-- A character that may start a name may also stand in one. -/
theorem isNameChar_of_isNameStart {c : Char} (h : isNameStart c = true) : isNameChar c = true := by
  simp only [isNameStart, isNameChar, Char.isAlphanum, Bool.or_eq_true] at h ⊢
  rcases h with h | h
  · exact .inl (.inl h)
  · exact .inr h

theorem checkIdentifier_eq_ok_iff {s t : Text} :
    checkIdentifier s = .ok t ↔ isIdentifier s = true ∧ t = s := by
  unfold checkIdentifier
  by_cases h : isIdentifier s = true
  · rw [if_pos h]
    exact ⟨fun e => ⟨h, (Except.ok.inj e).symm⟩, fun e => congrArg Except.ok e.2.symm⟩
  · rw [if_neg h]
    exact ⟨(fun e => by cases e), fun e => absurd e.1 h⟩

end FilterSql
