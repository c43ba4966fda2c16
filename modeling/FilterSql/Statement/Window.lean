/-
# FilterSql.Statement.Window -- a window of rows in SQL

Where a window stands in a statement depends on the dialect: at the end, or for a bare limit in
front of the select list. Some dialects allow an offset behind an ordering only, and some not
without a limit. The placement answers all three questions before the rest of the statement is
written.

A limit of zero is written as `TOP 0` whatever the offset: a fetch behind an offset must be
positive, and a window of no rows is the same wherever it begins.
-/

import FilterSql.Dialect.Capabilities
import FilterSql.Query

namespace FilterSql

/-- Where a window stands in a statement. -/
structure Placement where
  /-- The limit in front of the select list. -/
  top : Option Count
  /-- The last line of the statement. -/
  suffix : Option Text
  /-- The statement has to be ordered for the window to be allowed. -/
  needsOrder : Bool
  deriving DecidableEq

namespace Window

/-- The part `LIMIT n`, or a limit for all rows where an offset needs one. -/
def limitPart? (caps : Capabilities) (w : Window) : Option Text :=
  match w.limit, w.offset, caps.unboundedLimit with
  | some n, _, _ => some ("LIMIT " ++ n.toText)
  | none, some _, some unbounded => some ("LIMIT " ++ unbounded)
  | none, _, _ => none

/-- The part `OFFSET m`. -/
def offsetPart? (w : Window) : Option Text := w.offset.map fun m => "OFFSET " ++ m.toText

/-- The last line of a statement with limit and offset at its end. -/
def limitOffset? (caps : Capabilities) (w : Window) : Option Text :=
  match (w.limitPart? caps).toList ++ w.offsetPart?.toList with
  | [] => none
  | part :: rest => some ([' '].intercalate (part :: rest))

section LimitOffset

variable (caps : Capabilities) (n m : Count)

theorem limitOffset?_unlimited : limitOffset? caps ⟨none, none⟩ = none := rfl

theorem limitOffset?_limit :
    limitOffset? caps ⟨some n, none⟩ = some ("LIMIT ".toList ++ n.toText) := by
  simp [limitOffset?, limitPart?, offsetPart?]

theorem limitOffset?_limit_offset :
    limitOffset? caps ⟨some n, some m⟩ =
      some ("LIMIT ".toList ++ n.toText ++ " OFFSET ".toList ++ m.toText) := by
  simp [limitOffset?, limitPart?, offsetPart?]

variable {caps}

/-- A bare offset stays bare where the dialect allows it. -/
theorem limitOffset?_offset (h : caps.unboundedLimit = none) :
    limitOffset? caps ⟨none, some m⟩ = some ("OFFSET ".toList ++ m.toText) := by
  simp [limitOffset?, limitPart?, offsetPart?, h]

/-- Elsewhere a limit for all rows comes before it. -/
theorem limitOffset?_unbounded_offset {unbounded : Text}
    (h : caps.unboundedLimit = some unbounded) :
    limitOffset? caps ⟨none, some m⟩ =
      some ("LIMIT ".toList ++ unbounded ++ " OFFSET ".toList ++ m.toText) := by
  simp [limitOffset?, limitPart?, offsetPart?, h]

/-- A line with limit and offset has one of four forms. -/
theorem limitOffset?_cases {w : Window} {line : Text} (h : w.limitOffset? caps = some line) :
    (∃ n : Count, line = "LIMIT ".toList ++ n.toText) ∨
      (∃ n m : Count, line = "LIMIT ".toList ++ n.toText ++ " OFFSET ".toList ++ m.toText) ∨
      (∃ m : Count, caps.unboundedLimit = none ∧ line = "OFFSET ".toList ++ m.toText) ∨
      ∃ (unbounded : Text) (m : Count), caps.unboundedLimit = some unbounded ∧
        line = "LIMIT ".toList ++ unbounded ++ " OFFSET ".toList ++ m.toText := by
  obtain ⟨limit, offset⟩ := w
  cases limit with
  | some n =>
    cases offset with
    | none =>
      rw [limitOffset?_limit, Option.some.injEq] at h
      exact .inl ⟨n, h.symm⟩
    | some m =>
      rw [limitOffset?_limit_offset, Option.some.injEq] at h
      exact .inr (.inl ⟨n, m, h.symm⟩)
  | none =>
    right
    right
    cases offset with
    | none =>
      rw [limitOffset?_unlimited] at h
      cases h
    | some m =>
      -- Whether an offset stands alone depends on the dialect.
      cases all : caps.unboundedLimit with
      | none =>
        left
        rw [limitOffset?_offset m all, Option.some.injEq] at h
        exact ⟨m, rfl, h.symm⟩
      | some unbounded =>
        right
        rw [limitOffset?_unbounded_offset m all, Option.some.injEq] at h
        exact ⟨unbounded, m, rfl, h.symm⟩

end LimitOffset

/-- The last line of a statement that fetches rows behind an offset. -/
def fetch (limit : Option Count) (m : Count) : Text :=
  "OFFSET " ++ m.toText ++ " ROWS" ++
    match limit with
    | some n => " FETCH NEXT " ++ n.toText ++ " ROWS ONLY"
    | none => []

theorem fetch_none (m : Count) :
    fetch none m = "OFFSET ".toList ++ m.toText ++ " ROWS".toList :=
  List.append_nil ("OFFSET ".toList ++ m.toText ++ " ROWS".toList)

theorem fetch_some (n m : Count) :
    fetch (some n) m = "OFFSET ".toList ++ m.toText ++ " ROWS FETCH NEXT ".toList ++ n.toText ++
      " ROWS ONLY".toList := by
  have keywords : ∀ s t u : Text, s ++ " ROWS".toList ++ (" FETCH NEXT ".toList ++ t ++ u) =
      s ++ " ROWS FETCH NEXT ".toList ++ t ++ u := by
    intro s t u
    rw [List.append_assoc, List.append_assoc, List.append_assoc s, List.append_assoc]
    rfl
  unfold fetch
  exact keywords _ _ _

/-- Where a window stands in the statements of a dialect. -/
def placement (caps : Capabilities) (w : Window) : Placement :=
  match caps.window with
  | .limitOffset => { top := none, suffix := w.limitOffset? caps, needsOrder := false }
  | .topFetch =>
    match w.offset with
    | none => { top := w.limit, suffix := none, needsOrder := false }
    | some m =>
      if w.limit = some 0 then { top := w.limit, suffix := none, needsOrder := false }
      else { top := none, suffix := some (fetch w.limit m), needsOrder := caps.offsetNeedsOrder }

/-- The last line is written in the way of the dialect. -/
theorem suffix_cases {caps : Capabilities} {w : Window} {line : Text}
    (h : (w.placement caps).suffix = some line) :
    (caps.window = .limitOffset ∧ w.limitOffset? caps = some line) ∨
      caps.window = .topFetch ∧ ∃ m, line = fetch w.limit m := by
  unfold placement at h
  split at h
  · next window => exact .inl ⟨window, h⟩
  · next window =>
    right
    refine ⟨window, ?_⟩
    split at h
    · cases h
    · next m _ =>
      split at h
      · cases h
      · exact ⟨m, (Option.some.inj h).symm⟩

end Window

end FilterSql
