/-
# FilterSql.Proofs.Query.Wrapping -- which parentheses around a text are taken for a wrapper

A list and a group may stand between parentheses, and one pair of them is removed. What is removed
is an opening parenthesis at the start and a closing one at the end. That these two belong together
is not looked at: in `(a),(b)` they do not, and the items that are left are `a)` and `(b`.

`Wrapped` says when two parentheses do belong together, by the depth behind every beginning of the
text, and `LooksWrapped` when the two ends only look like it. Removal goes by the ends, so it is
wrong for exactly these texts. The items and the terms of such a text are never those that cutting
it as it stands would give, for an opening parenthesis is lost, and neither trimming nor cutting
loses another.
-/

import Mathlib.Data.List.Infix
import FilterSql.Proofs.Query.RoundTrip
import FilterSql.Proofs.Text.Cuts

namespace FilterSql

namespace Text

/-! ## Parentheses that belong together -/

/-- The nesting depth behind a text. -/
def depthBehind (s : Text) : Nat := s.foldl depthAfter 0

theorem depthBehind_concat (s : Text) (c : Char) :
    depthBehind (s ++ [c]) = depthAfter (depthBehind s) c := by
  simp [depthBehind]

/-- The text starts with a parenthesis that its last character closes: from the first character on
the depth is zero behind the whole text and nowhere before. -/
def Wrapped (s : Text) : Prop :=
  s.head? = some '(' ∧ ∀ front, front <+: s → front ≠ [] → (depthBehind front = 0 ↔ front = s)

instance : DecidablePred Wrapped := fun s =>
  decidable_of_iff (s.head? = some '(' ∧
      ∀ front ∈ s.inits, front ≠ [] → (depthBehind front = 0 ↔ front = s))
    (by simp [Wrapped])

/-- The text starts with an opening parenthesis and ends with another, closing one. -/
def Flanked (s : Text) : Prop := s.head? = some '(' ∧ s.tail.getLast? = some ')'

instance : DecidablePred Flanked := fun s =>
  inferInstanceAs (Decidable (s.head? = some '(' ∧ s.tail.getLast? = some ')'))

/-- The text looks as if it were wrapped, but its ends do not belong together. -/
def LooksWrapped (s : Text) : Prop := Flanked s ∧ ¬ Wrapped s

instance : DecidablePred LooksWrapped := fun s =>
  inferInstanceAs (Decidable (Flanked s ∧ ¬ Wrapped s))

theorem flanked_iff {s : Text} : Flanked s ↔ ∃ inner, s = '(' :: (inner ++ [')']) := by
  constructor
  · rintro ⟨first, last⟩
    obtain ⟨rest, rfl⟩ := List.head?_eq_some_iff.1 first
    obtain ⟨inner, rfl⟩ := List.getLast?_eq_some_iff.1 last
    exact ⟨inner, rfl⟩
  · rintro ⟨inner, rfl⟩
    exact ⟨rfl, by simp⟩

/-- Parentheses that belong together stand at the ends. -/
theorem Wrapped.flanked {s : Text} (h : Wrapped s) : Flanked s := by
  obtain ⟨first, behind⟩ := h
  obtain ⟨rest, rfl⟩ := List.head?_eq_some_iff.1 first
  refine ⟨rfl, ?_⟩
  cases rest using List.reverseRecOn with
  | nil => exact absurd ((behind ['('] List.prefix_rfl (by simp)).2 rfl) (by decide)
  | append_singleton inner c =>
    have opened : depthBehind ('(' :: inner) ≠ 0 := fun zero => by
      have whole := (behind ('(' :: inner) ⟨[c], rfl⟩ (by simp)).1 zero
      simpa using congrArg List.length whole
    have closed : depthAfter (depthBehind ('(' :: inner)) c = 0 := by
      rw [← depthBehind_concat]
      exact (behind _ List.prefix_rfl (by simp)).2 rfl
    have closing : c = ')' := by
      unfold depthAfter at closed
      split at closed
      · omega
      · split at closed
        · assumption
        · exact absurd closed opened
    simp [closing]

/-! ## Removal by matching and removal by the ends -/

/-- The text without its wrapper, if its ends belong together, and otherwise as it stands. -/
def unwrapMatched (s : Text) : Text := if Wrapped s then s.tail.dropLast else s

/-- What stands between an opening parenthesis at the start and a closing one at the end is left. -/
theorem unwrap_eq (s : Text) : unwrap s = if Flanked s then s.tail.dropLast else s := by
  split
  · next flanked =>
    obtain ⟨inner, rfl⟩ := flanked_iff.1 flanked
    simp [unwrap]
  · next other =>
    unfold unwrap
    split
    · next rest => exact if_neg fun last => other ⟨rfl, last⟩
    · rfl

/-- Removal by the ends is right but for texts that look wrapped. -/
theorem unwrap_eq_unwrapMatched {s : Text} (h : ¬ LooksWrapped s) : unwrap s = unwrapMatched s := by
  rw [unwrap_eq, unwrapMatched]
  by_cases wrapped : Wrapped s
  · rw [if_pos wrapped, if_pos wrapped.flanked]
  · rw [if_neg wrapped, if_neg fun flanked => h ⟨flanked, wrapped⟩]

/-- Of a text that only looks wrapped an opening parenthesis is lost. -/
theorem LooksWrapped.count {s : Text} (h : LooksWrapped s) :
    (unwrapMatched s).count '(' = (unwrap s).count '(' + 1 := by
  rw [unwrap_eq, unwrapMatched, if_pos h.1, if_neg h.2]
  obtain ⟨inner, rfl⟩ := flanked_iff.1 h.1
  simp

/-! ## No cutting loses a parenthesis -/

theorem count_trim (s : Text) : (trim s).count '(' = s.count '(' := by
  obtain ⟨before, after, whole, blankBefore, blankAfter⟩ := exists_eq_append_trim s
  have absent : ∀ t : Text, Blank t → t.count '(' = 0 := fun t blank =>
    List.count_eq_zero.2 fun mem => absurd (blank _ mem) (by decide)
  conv_rhs => rw [whole]
  simp [absent before blankBefore, absent after blankAfter]

theorem count_nonblank (pieces : List Text) :
    (nonblank pieces).flatten.count '(' = pieces.flatten.count '(' := by
  induction pieces with
  | nil => rfl
  | cons piece rest ih =>
    have first := count_trim piece
    rw [List.flatten_cons, List.count_append, ← ih, ← first]
    by_cases empty : trim piece = []
    · simp [nonblank, empty]
    · simp [nonblank, empty]

/-- Every parenthesis of a text is in one of its items. -/
theorem count_items (s : Text) : (items s).flatten.count '(' = s.count '(' := by
  have joined : ∀ pieces : List Text,
      ([','].intercalate pieces).count '(' = pieces.flatten.count '(' := by
    intro pieces
    induction pieces with
    | nil => rfl
    | cons piece rest ih =>
      by_cases last : rest = []
      · simp [last]
      · rw [List.intercalate_cons_of_ne_nil last]
        simp [ih]
  rw [items, count_nonblank, ← joined, List.intercalate_splitOn]

theorem count_cutsFrom (depth : Nat) (s : Text) :
    (cutsFrom depth s).flatten.count '(' = s.count '(' := by
  induction s generalizing depth with
  | nil => rfl
  | cons c rest ih =>
    unfold cutsFrom
    split
    · next cut => simp [cut.1, ih]
    · obtain ⟨first, others, cuts⟩ :=
        List.exists_cons_of_ne_nil (cutsFrom_ne_nil (depthAfter depth c) rest)
      have rest_count := ih (depthAfter depth c)
      rw [cuts] at rest_count ⊢
      simp [List.count_cons, ← rest_count]

/-- Every parenthesis of a text is in one of its terms. -/
theorem count_terms (s : Text) : (terms s).flatten.count '(' = s.count '(' := by
  rw [terms, count_nonblank, count_cutsFrom]

end Text

/-! ## Lists and groups -/

/-- The list operand of items, if there are any. -/
def Operand.ofItems? : List Text → Option Operand
  | [] => none
  | item :: rest => some (list (item :: rest))

theorem Operand.ofItems?_injective {items items' : List Text}
    (h : ofItems? items = ofItems? items') : items = items' := by
  cases items <;> cases items' <;> simp_all [ofItems?]

theorem Operand.ofText?_isIn (s : Text) :
    ofText? .isIn s = ofItems? (Text.items (Text.unwrap (Text.trim s))) := by
  rw [ofText?, if_pos rfl]
  cases Text.items (Text.unwrap (Text.trim s)) <;> rfl

theorem Params.groups_singleton (combinator : Combinator) (value : Text) :
    (ofPairs [(combinator.directive.key, value)]).groups =
      [(combinator, Text.terms (Text.unwrap (Text.trim value)))] := by
  cases combinator <;> rfl

/-- Only parentheses that belong together are removed, but for texts that look wrapped: for every
other operand of `in` and every other value of a group the items and the terms are those that
removal by matching leaves, and for none of these they are. -/
theorem unwraps_matched_iff (value : Text) :
    (Operand.ofText? .isIn value =
        Operand.ofItems? (Text.items (Text.unwrapMatched (Text.trim value))) ↔
      ¬ Text.LooksWrapped (Text.trim value)) ∧
    ∀ combinator : Combinator,
      (Params.ofPairs [(combinator.directive.key, value)]).groups =
          [(combinator, Text.terms (Text.unwrapMatched (Text.trim value)))] ↔
        ¬ Text.LooksWrapped (Text.trim value) := by
  refine ⟨⟨fun same looks => ?_, fun straight => ?_⟩,
    fun combinator => ⟨fun same looks => ?_, fun straight => ?_⟩⟩
  · have items := Operand.ofItems?_injective ((Operand.ofText?_isIn value).symm.trans same)
    have count := looks.count
    rw [← Text.count_items, ← items, Text.count_items] at count
    omega
  · rw [Operand.ofText?_isIn, Text.unwrap_eq_unwrapMatched straight]
  · rw [Params.groups_singleton, List.singleton_inj, Prod.mk.injEq] at same
    have count := looks.count
    rw [← Text.count_terms, ← same.2, Text.count_terms] at count
    omega
  · rw [Params.groups_singleton, Text.unwrap_eq_unwrapMatched straight]

/-- Two items between parentheses lose one each, and a group whose closing parenthesis is missing
takes that of its last list for it. -/
theorem unwraps_unmatched :
    Operand.ofText? .isIn "(a),(b)" = some (.list ["a)", "(b"]) ∧
      Operand.ofItems? (Text.items (Text.unwrapMatched (Text.trim "(a),(b)"))) =
        some (.list ["(a)", "(b)"]) ∧
      (Params.ofPairs [("or", "(a.in.(1,2)")]).groups = [(.or, [("a.in.(1,2" : Text)])] ∧
      Text.terms (Text.unwrapMatched (Text.trim "(a.in.(1,2)")) = ["(a.in.(1,2)"] := by
  decide

end FilterSql
