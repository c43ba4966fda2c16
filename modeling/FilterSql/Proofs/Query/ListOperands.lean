/-
# FilterSql.Proofs.Query.ListOperands -- lists of literals, read and written

The items of a list are trimmed, not empty and without commas. Any such items are read back from
their text between parentheses, with blanks around the whole and around each item and with blank
pieces anywhere, and whatever is read as a list is read from that text again. Of one pair of
parentheses nothing is asked but that it stands at the ends: items may have any of their own.

A text is no list exactly when it is void, that is without characters other than blanks and commas,
as it stands or between one such pair. In a statement a list is as many placeholders as it has
items, between the parentheses of one `IN`.
-/

import FilterSql.Proofs.Query.Guarantees
import FilterSql.Proofs.Query.Wrapping
import FilterSql.Proofs.Statement.Bindings
import FilterSql.Proofs.Text.Padding

namespace FilterSql

namespace Text

/-! ## Texts without items -/

/-- The text has no characters but blanks and commas. -/
def Void (s : Text) : Prop := ∀ c ∈ s, isBlank c = true ∨ c = ','

instance : DecidablePred Void := fun s => List.decidableBAll _ s

/-- A text without items is void: its pieces are blank, and between them are commas. -/
theorem items_eq_nil_iff {s : Text} : items s = [] ↔ Void s := by
  rw [items, nonblank_eq_nil_iff]
  constructor
  · intro blank c hc
    rcases eq_or_mem_of_mem_splitOn ',' hc with comma | ⟨piece, hp, hc⟩
    · exact .inr comma
    · exact .inl (blank piece hp c hc)
  · intro void piece hp c hc
    rcases void c (mem_of_mem_splitOn hp hc) with blank | rfl
    · exact blank
    · exact absurd hc (not_mem_of_mem_splitOn hp)

theorem void_trim_iff {s : Text} : Void (trim s) ↔ Void s := by
  constructor
  · intro void c hc
    obtain ⟨before, after, whole, blankBefore, blankAfter⟩ := exists_eq_append_trim s
    rw [whole, List.mem_append, List.mem_append] at hc
    rcases hc with (hc | hc) | hc
    · exact .inl (blankBefore c hc)
    · exact void c hc
    · exact .inl (blankAfter c hc)
  · exact fun void c hc => void c (mem_of_mem_trim hc)

/-- A parenthesis is neither a blank nor a comma. -/
theorem Void.not_flanked {s : Text} (h : Void s) : ¬ Flanked s := by
  rintro ⟨first, -⟩
  have opening : '(' ∈ s := List.mem_of_mem_head? first
  exact absurd (h '(' opening) (by decide)

/-- Blanks around the parentheses of a text are lost with them, and nothing else is. -/
theorem Padded.unwrap_trim {inner s : Text} (h : Padded ('(' :: (inner ++ [')'])) s) :
    unwrap (trim s) = inner := by
  obtain ⟨before, after, blankBefore, blankAfter, rfl⟩ := h
  rw [trim_append_of_blank _ blankBefore blankAfter, unwrap_trim_parenthesized]

/-- No item is left of a text exactly when it is void, or what its outer parentheses enclose is. -/
theorem items_unwrap_trim_eq_nil_iff {s : Text} :
    items (unwrap (trim s)) = [] ↔
      Void s ∨ ∃ inner, Void inner ∧ Padded ('(' :: (inner ++ [')'])) s := by
  constructor
  · intro none
    rw [items_eq_nil_iff, unwrap_eq] at none
    split at none
    · next flanked =>
      obtain ⟨inner, wrapped⟩ := flanked_iff.1 flanked
      have padded := padded_trim s
      rw [wrapped] at none padded
      exact .inr ⟨inner, by simpa using none, padded⟩
    · exact .inl (void_trim_iff.1 none)
  · rintro (void | ⟨inner, void, padded⟩)
    · -- Without parentheses there is nothing to remove.
      have trimmed := void_trim_iff.2 void
      rw [unwrap_eq, if_neg trimmed.not_flanked]
      exact items_eq_nil_iff.2 trimmed
    · rw [padded.unwrap_trim]
      exact items_eq_nil_iff.2 void

end Text

/-! ## Lists that are read -/

namespace Operand

/-- Items are read from between parentheses, wherever blanks and blank pieces stand. -/
theorem ofText?_of_spread {items pieces : List Text} {value : Text} (ne : items ≠ [])
    (regular : ∀ item ∈ items, Text.IsTrimmed item ∧ item ≠ [] ∧ ',' ∉ item)
    (spread : Text.Spread items pieces) (padded : Text.Padded (list pieces).text value) :
    ofText? .isIn value = some (list items) := by
  obtain ⟨item, rest, rfl⟩ := List.exists_cons_of_ne_nil ne
  rw [ofText?_isIn, padded.unwrap_trim, spread.items_eq regular]
  rfl

/-- What can be written for `in` is a list. -/
theorem Writable.exists_list {operand : Operand} (h : operand.Writable .isIn) :
    ∃ items, operand = list items ∧ items ≠ [] ∧
      ∀ item ∈ items, Text.IsTrimmed item ∧ item ≠ [] ∧ ',' ∉ item := by
  cases operand with
  | single literal => exact absurd rfl h
  | list items => exact ⟨items, rfl, h.2⟩

end Operand

/-! ## Lists that are written -/

namespace Predicate

/-- One `IN` with a placeholder for each item. -/
theorem sql_fragment_of_isIn (caps : Capabilities) {p : Predicate} (isIn : p.operator = .isIn) :
    (p.fragment caps).sql = caps.quote p.column ++ " IN (" ++
      (", " : Text).intercalate (List.replicate p.operand.items.length Piece.placeholder) ++
        ")" := by
  have holes : (p.operand.items.map Fragment.hole).map Fragment.sql =
      List.replicate p.operand.items.length Piece.placeholder := by
    rw [List.map_map, List.eq_replicate_iff]
    simp
  simp only [fragment, if_pos isIn, Fragment.sql_append, Fragment.sql_raw, Fragment.sql_join, holes]

theorem bindings_fragment_of_isIn (caps : Capabilities) {p : Predicate}
    (isIn : p.operator = .isIn) : (p.fragment caps).bindings = p.operand.items := by
  simp [fragment, isIn, Fragment.bindings_join, List.flatMap_map]

/-- The question marks of a predicate are its placeholders: neither a quoted column nor a symbol
has any. -/
theorem count_fragment (dialect : Dialect) {p : Predicate} (h : p.WellFormed) :
    (p.fragment dialect.capabilities).sql.count '?' = p.operand.items.length := by
  have written := within_fragment dialect.regular.coveredBy_mayWrite h
  rw [Fragment.count_sql (written.not_mem dialect.regular.mayWrite_placeholder),
    bindings_fragment _ h]

end Predicate

/-! ## The whole way -/

/-- Lists are read back from their text between parentheses, and texts without items are void. What
is read as a list is in that form, and on every column it is written as one `IN` with a placeholder
for each item, which binds it. -/
theorem Operand.lists_exact :
    (∀ (items pieces : List Text) (value : Text), items ≠ [] →
      (∀ item ∈ items, Text.IsTrimmed item ∧ item ≠ [] ∧ ',' ∉ item) →
      Text.Spread items pieces → Text.Padded (list pieces).text value →
        ofText? .isIn value = some (list items)) ∧
    (∀ value : Text, ofText? .isIn value = none ↔
      Text.Void value ∨
        ∃ inner, Text.Void inner ∧ Text.Padded ('(' :: (inner ++ [')'])) value) ∧
    ∀ (value : Text) (operand : Operand), ofText? .isIn value = some operand →
      ∃ items, operand = list items ∧ items ≠ [] ∧
        (∀ item ∈ items, Text.IsTrimmed item ∧ item ≠ [] ∧ ',' ∉ item) ∧
        ofText? .isIn (list items).text = some (list items) ∧
        ∀ column : Text, let p : Predicate := ⟨column, .isIn, list items⟩
          (∀ caps : Capabilities,
            (p.fragment caps).sql = caps.quote column ++ " IN (" ++
                (", " : Text).intercalate (List.replicate items.length Piece.placeholder) ++ ")" ∧
              (p.fragment caps).bindings = items) ∧
          (isIdentifier column = true → ∀ dialect : Dialect,
            (p.fragment dialect.capabilities).sql.count '?' = items.length) := by
  refine ⟨fun items pieces value ne regular spread padded => ?_, fun value => ?_,
    fun value operand read => ?_⟩
  · exact ofText?_of_spread ne regular spread padded
  · rw [ofText?_eq_none_iff, Text.items_unwrap_trim_eq_nil_iff]
    exact and_iff_right rfl
  · have writable := writable_of_ofText? read
    obtain ⟨items, rfl, ne, regular⟩ := writable.exists_list
    refine ⟨items, rfl, ne, regular, ofText?_text writable, fun column => ⟨fun caps => ⟨?_, ?_⟩,
      fun valid dialect => ?_⟩⟩
    · exact Predicate.sql_fragment_of_isIn caps rfl
    · exact Predicate.bindings_fragment_of_isIn caps rfl
    · exact Predicate.count_fragment dialect ⟨valid, suits_of_ofText? read⟩

/-- Items with parentheses at their ends, blanks around each, blank pieces in front of all and
behind, and a text that is nothing but commas between its parentheses. -/
theorem Operand.lists_exact_flanked :
    let items : List Text := ["(a", "b)", "c.d'"]
    let value : Text := " ( , (a , b),c.d' ,) "
    let p : Predicate := ⟨"k", .isIn, list items⟩
    ofText? .isIn value = some (list items) ∧
      ofText? .isIn "((a,b),c.d')" = some (list items) ∧
      ofText? .isIn "(, ,)" = none ∧
      (p.fragment Dialect.mysql.capabilities).sql = "\x60k\x60 IN (?, ?, ?)".toList ∧
      (p.fragment Dialect.mysql.capabilities).bindings = items ∧
      (p.fragment Dialect.mysql.capabilities).sql.count '?' = 3 := by
  intro items value p
  obtain ⟨reads, voids, lists⟩ := lists_exact
  have regular : ∀ item ∈ items, Text.IsTrimmed item ∧ item ≠ [] ∧ ',' ∉ item := by decide
  have spread : Text.Spread items [" ", " (a ", " b)", "c.d' ", ""] :=
    .blank (by decide) <|
      .text ⟨" ", " ", by decide, by decide, by decide⟩ <|
        .text ⟨" ", "", by decide, by decide, by decide⟩ <|
          .text ⟨"", " ", by decide, by decide, by decide⟩ <| .blank (by decide) .nil
  have read : ofText? .isIn value = some (list items) :=
    reads items _ value (by decide) regular spread ⟨" ", " ", by decide, by decide, by decide⟩
  have void : ofText? .isIn "(, ,)" = none :=
    (voids "(, ,)").2 (.inr ⟨", ,", by decide, "", "", by decide, by decide, by decide⟩)
  obtain ⟨_, same, -, -, again, writes⟩ := lists value _ read
  cases same
  obtain ⟨written, marks⟩ := writes "k"
  obtain ⟨sql, bindings⟩ := written Dialect.mysql.capabilities
  exact ⟨read, again, void, sql, bindings, marks (by decide) .mysql⟩

end FilterSql
