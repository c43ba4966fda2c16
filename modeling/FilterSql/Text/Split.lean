/-
# FilterSql.Text.Split -- cutting a text into its pieces

Four ways to take a text apart: at the first occurrence of a mark, at every comma, at every comma
that no parenthesis encloses, and by removing one pair of parentheses around the whole. Pieces are
trimmed and blank pieces dropped, so that stray commas and padding never matter.

Nothing here balances parentheses: a closing one below depth zero leaves the depth at zero, and an
open one that is never closed hides every later comma. Removing the outer pair looks at the first
and the last character only, whether or not these two belong together.
-/

import FilterSql.Text.Basic

namespace FilterSql

/-! ## At the first mark -/

/-- What stands before and after the first occurrence of a mark, which is not empty. -/
def cut? {α : Type} [BEq α] (mark : List α) : List α → Option (List α × List α)
  | [] => none
  | a :: rest =>
    if mark.isPrefixOf (a :: rest) then some ([], (a :: rest).drop mark.length)
    else (cut? mark rest).map fun halves => (a :: halves.1, halves.2)

/-- The two halves with the mark between them are the whole. -/
theorem eq_append_of_cut? {α : Type} [BEq α] [LawfulBEq α] {mark s before after : List α}
    (h : cut? mark s = some (before, after)) : s = before ++ mark ++ after := by
  induction s generalizing before with
  | nil => simp [cut?] at h
  | cons a rest ih =>
    unfold cut? at h
    split at h
    · next hp =>
      obtain ⟨rfl, rfl⟩ := Prod.mk.inj (Option.some.inj h)
      exact (List.prefix_iff_eq_append.1 (List.isPrefixOf_iff_prefix.1 hp)).symm
    · obtain ⟨halves, hr, he⟩ := Option.map_eq_some_iff.1 h
      obtain ⟨rfl, rfl⟩ := Prod.mk.inj he
      simpa using ih hr

namespace Text

/-- Does the mark occur in the text? -/
def mentions (mark s : Text) : Bool := (cut? mark s).isSome

/-! ## At commas -/

/-- The pieces left once blanks around each piece and blank pieces are gone. -/
def nonblank (pieces : List Text) : List Text := (pieces.map trim).filter (· ≠ [])

/-- The items of a text: the trimmed non-blank pieces between commas. -/
def items (s : Text) : List Text := nonblank (s.splitOn ',')

/-- The nesting depth after a character; it never falls below zero. -/
def depthAfter (depth : Nat) (c : Char) : Nat :=
  if c = '(' then depth + 1 else if c = ')' then depth - 1 else depth

/-- The raw pieces between the commas at depth zero, for a text that starts at the given depth. -/
def cutsFrom (depth : Nat) : Text → List Text
  | [] => [[]]
  | c :: rest =>
    if c = ',' ∧ depth = 0 then [] :: cutsFrom 0 rest
    else (cutsFrom (depthAfter depth c) rest).modifyHead (c :: ·)

/-- There is always a first piece, if only an empty one. -/
theorem cutsFrom_ne_nil (depth : Nat) (s : Text) : cutsFrom depth s ≠ [] := by
  induction s generalizing depth with
  | nil => simp [cutsFrom]
  | cons c rest ih =>
    unfold cutsFrom
    split
    · simp
    · simpa using ih _

/-- The terms of a text: the trimmed non-blank pieces between the commas that no parenthesis
encloses. -/
def terms (s : Text) : List Text := nonblank (cutsFrom 0 s)

/-! ## Around the whole -/

/-- The text without its wrapper: a text that starts with an opening and ends with a closing
parenthesis loses both. One parenthesis alone is not a pair. -/
def unwrap : Text → Text
  | '(' :: rest => if rest.getLast? = some ')' then rest.dropLast else '(' :: rest
  | s => s

end Text

end FilterSql
