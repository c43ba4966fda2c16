/-
# FilterSql.Proofs.Dialect.Quoting -- quoted names are read back

A reader of quoted names knows the two marks of a capability table, the dot between segments, and
that a closing mark written twice stands for itself. It gives back the segments of every name that
is quoted, marks, dots and controls in it or not, for every table whose closing mark is not the dot.

The heart of it is `segmentsFrom?_quoteSegment_append`: however a segment goes on and whatever
stands behind it, the reader comes out behind its closing mark with the whole segment read. So no
segment ends its own quotation early.

Whether anything is doubled depends on the closing mark only. A table may have one that stands in
identifiers, and then some identifier is altered by quoting; none of the known dialects has.
-/

import Mathlib.Data.List.Basic
import FilterSql.Dialect
import FilterSql.Proofs.Alphabet

namespace FilterSql

namespace Capabilities

/-! ## A reader of quoted names -/

/-- Where the reader stands. -/
inductive Place where
  /-- In front of a segment. -/
  | outside
  /-- Between the marks of a segment. -/
  | inside
  /-- Behind a closing mark, which may turn out to be the first of two. -/
  | behind

/-- The segments from a place on. The first of them is what is left of the segment that the reader
is in. -/
def segmentsFrom? (caps : Capabilities) : Place → Text → Option (List Text)
  | .outside, [] => none
  | .outside, c :: rest => if c = caps.openQuote then caps.segmentsFrom? .inside rest else none
  | .inside, [] => none
  | .inside, c :: rest =>
    if c = caps.closeQuote then caps.segmentsFrom? .behind rest
    else (caps.segmentsFrom? .inside rest).map (List.modifyHead (c :: ·))
  | .behind, [] => some [[]]
  | .behind, c :: rest =>
    if c = caps.closeQuote then
      (caps.segmentsFrom? .inside rest).map (List.modifyHead (c :: ·))
    else if c = '.' then (caps.segmentsFrom? .outside rest).map ([] :: ·)
    else none

/-- The segments of a quoted name. -/
def segments? (caps : Capabilities) (s : Text) : Option (List Text) :=
  caps.segmentsFrom? .outside s

/-! ## Reading segments back -/

variable {caps : Capabilities}

/-- The text of a segment between its marks, every closing mark in it doubled. -/
def escape (caps : Capabilities) (segment : Text) : Text :=
  segment.flatMap fun c => if c = caps.closeQuote then [c, c] else [c]

theorem quoteSegment_eq (segment : Text) :
    caps.quoteSegment segment = caps.openQuote :: (caps.escape segment ++ [caps.closeQuote]) :=
  rfl

/-- However a segment goes on, behind all of it the reader is still inside. -/
theorem segmentsFrom?_escape_append (segment rest : Text) :
    caps.segmentsFrom? .inside (caps.escape segment ++ rest) =
      (caps.segmentsFrom? .inside rest).map (List.modifyHead (segment ++ ·)) := by
  induction segment with
  | nil =>
    have same : List.modifyHead (([] : Text) ++ ·) = (id : List Text → List Text) :=
      List.modifyHead_id
    rw [same, Option.map_id]
    rfl
  | cons c segment ih =>
    have grown : ∀ read : Option (List Text),
        (read.map (List.modifyHead (segment ++ ·))).map (List.modifyHead (c :: ·)) =
          read.map (List.modifyHead (c :: segment ++ ·)) := by
      intro read
      rw [Option.map_map]
      congr 1
      funext segments
      exact List.modifyHead_modifyHead ..
    rw [escape, List.flatMap_cons, List.append_assoc]
    by_cases mark : c = caps.closeQuote
    · -- Of two closing marks the first leaves the segment and the second comes back to it.
      rw [if_pos mark, List.cons_append, List.singleton_append, segmentsFrom?, if_pos mark,
        segmentsFrom?, if_pos mark]
      exact (congrArg _ ih).trans (grown _)
    · rw [if_neg mark, List.singleton_append, segmentsFrom?, if_neg mark]
      exact (congrArg _ ih).trans (grown _)

/-- Whatever stands behind a quoted segment, the reader comes to it with the whole segment read. -/
theorem segmentsFrom?_quoteSegment_append (segment rest : Text) :
    caps.segmentsFrom? .outside (caps.quoteSegment segment ++ rest) =
      (caps.segmentsFrom? .behind rest).map (List.modifyHead (segment ++ ·)) := by
  rw [quoteSegment_eq, List.cons_append, segmentsFrom?, if_pos rfl, List.append_assoc,
    segmentsFrom?_escape_append, List.singleton_append, segmentsFrom?, if_pos rfl]

/-- Quoted segments with dots between them are read one after the other. -/
theorem segmentsFrom?_intercalate (h : caps.closeQuote ≠ '.') {segments : List Text}
    (ne : segments ≠ []) :
    caps.segmentsFrom? .outside (['.'].intercalate (segments.map caps.quoteSegment)) =
      some segments := by
  induction segments with
  | nil => exact absurd rfl ne
  | cons segment others ih =>
    by_cases last : others = []
    · have whole : caps.segmentsFrom? .outside (caps.quoteSegment segment ++ []) = _ :=
        segmentsFrom?_quoteSegment_append segment []
      rw [List.append_nil] at whole
      rw [last, List.map_singleton, List.intercalate_singleton, whole, segmentsFrom?,
        Option.map_some, List.modifyHead_cons, List.append_nil]
    · -- Behind the closing mark stands the dot, which is not the mark once more.
      have dot : ¬ '.' = caps.closeQuote := fun same => h same.symm
      rw [List.map_cons, List.intercalate_cons_of_ne_nil (by simpa using last), List.append_assoc,
        segmentsFrom?_quoteSegment_append, List.singleton_append, segmentsFrom?, if_neg dot,
        if_pos rfl, ih last, Option.map_some, Option.map_some, List.modifyHead_cons,
        List.append_nil]

/-- Every quoted name is read back. -/
theorem segments?_quote_eq (h : caps.closeQuote ≠ '.') (name : Text) :
    caps.segments? (caps.quote name) = some (name.splitOn '.') :=
  segmentsFrom?_intercalate h (List.splitOn_ne_nil '.' name)

/-- Different names are quoted differently. -/
theorem quote_injective (h : caps.closeQuote ≠ '.') : Function.Injective caps.quote := by
  intro name name' same
  have read := segments?_quote_eq h name
  rw [same, segments?_quote_eq h name', Option.some.injEq] at read
  rw [← (List.intercalate_splitOn '.' : ['.'].intercalate (name.splitOn '.') = name), ← read,
    List.intercalate_splitOn]

/-! ## Names that quoting does not alter -/

/-- One segment between the marks, as it stands. -/
def encloseSegment (caps : Capabilities) (segment : Text) : Text :=
  caps.openQuote :: (segment ++ [caps.closeQuote])

/-- A name with the marks around every segment and nothing doubled. -/
def enclose (caps : Capabilities) (name : Text) : Text :=
  ['.'].intercalate ((name.splitOn '.').map caps.encloseSegment)

/-- Quoting makes a segment longer by its closing marks. -/
theorem length_quoteSegment (segment : Text) :
    (caps.quoteSegment segment).length =
      (caps.encloseSegment segment).length + segment.count caps.closeQuote := by
  have longer : (caps.escape segment).length = segment.length + segment.count caps.closeQuote := by
    induction segment with
    | nil => rfl
    | cons c segment ih =>
      rw [escape] at ih ⊢
      rw [List.flatMap_cons, List.length_append, ih, List.length_cons, List.count_cons]
      by_cases mark : c = caps.closeQuote
      · simp [mark]
        omega
      · simp [mark]
        omega
  rw [quoteSegment_eq, encloseSegment, List.length_cons, List.length_cons, List.length_append,
    List.length_append, longer]
  simp only [List.length_singleton]
  omega

theorem length_intercalate_quoteSegment (segments : List Text) :
    (['.'].intercalate (segments.map caps.quoteSegment)).length =
      (['.'].intercalate (segments.map caps.encloseSegment)).length +
        segments.flatten.count caps.closeQuote := by
  induction segments with
  | nil => rfl
  | cons segment others ih =>
    have first : (caps.quoteSegment segment).length = _ := length_quoteSegment segment
    by_cases last : others = []
    · simpa [last] using first
    · rw [List.map_cons, List.map_cons, List.intercalate_cons_of_ne_nil (by simpa using last),
        List.intercalate_cons_of_ne_nil (by simpa using last), List.flatten_cons,
        List.count_append]
      simp only [List.length_append, List.length_singleton]
      omega

/-- A name is quoted as it stands exactly when the closing mark does not stand in it. -/
theorem quote_eq_enclose_iff (h : caps.closeQuote ≠ '.') {name : Text} :
    caps.quote name = caps.enclose name ↔ caps.closeQuote ∉ name := by
  constructor
  · intro same mem
    have lengths : (caps.quote name).length = (caps.enclose name).length +
        (name.splitOn '.').flatten.count caps.closeQuote :=
      length_intercalate_quoteSegment (name.splitOn '.')
    rcases Text.eq_or_mem_of_mem_splitOn '.' mem with dot | ⟨segment, hs, mem⟩
    · exact h dot
    · have counted : 0 < (name.splitOn '.').flatten.count caps.closeQuote :=
        List.count_pos_iff.2 (List.mem_flatten.2 ⟨segment, hs, mem⟩)
      rw [same] at lengths
      omega
  · intro absent
    have each : ∀ segment ∈ name.splitOn '.',
        caps.quoteSegment segment = caps.encloseSegment segment := by
      intro segment hs
      have unmarked : ∀ c ∈ segment, (if c = caps.closeQuote then [c, c] else [c]) = [c] := by
        intro c hc
        refine if_neg fun mark => absent ?_
        exact mark ▸ Text.mem_of_mem_splitOn hs hc
      rw [quoteSegment_eq, encloseSegment, escape, List.flatMap_congr unmarked,
        List.flatMap_singleton']
    rw [quote, enclose, List.map_congr_left each]

/-- Identifiers are quoted as they stand exactly when the closing mark stands in none of them. -/
theorem quote_identifiers_iff (h : caps.closeQuote ≠ '.') :
    (∀ name, isIdentifier name = true → caps.quote name = caps.enclose name) ↔
      isNameChar caps.closeQuote = false := by
  constructor
  · intro unaltered
    rw [Bool.eq_false_iff]
    intro named
    -- With the closing mark behind an underscore there is an identifier that holds it.
    have valid : isName ['_', caps.closeQuote] = true := by simp [isName, isNameStart, named]
    have identifier : isIdentifier ['_', caps.closeQuote] = true :=
      isIdentifier_iff.2 ⟨[['_', caps.closeQuote]], by simp, by simpa using valid, by simp⟩
    exact (quote_eq_enclose_iff h).1 (unaltered _ identifier) (by simp)
  · intro unnamed name identifier
    exact (quote_eq_enclose_iff h).2 (not_mem_of_isIdentifier ⟨unnamed, h⟩ identifier)

/-- Quoting is unambiguous for every table whose closing mark is not the dot: the segments of a name
are read back, different names are quoted differently, and no segment ends its quotation early. A
name is altered exactly when the closing mark stands in it, so identifiers are not when it is no
character of names. -/
theorem segments?_quote (h : caps.closeQuote ≠ '.') :
    (∀ name, caps.segments? (caps.quote name) = some (name.splitOn '.')) ∧
      Function.Injective caps.quote ∧
      (∀ segment rest : Text,
        caps.segmentsFrom? .outside (caps.quoteSegment segment ++ rest) =
          (caps.segmentsFrom? .behind rest).map (List.modifyHead (segment ++ ·))) ∧
      (∀ name, caps.quote name = caps.enclose name ↔ caps.closeQuote ∉ name) ∧
      ((∀ name, isIdentifier name = true → caps.quote name = caps.enclose name) ↔
        isNameChar caps.closeQuote = false) :=
  ⟨segments?_quote_eq h, quote_injective h, segmentsFrom?_quoteSegment_append,
    fun _ => quote_eq_enclose_iff h, quote_identifiers_iff h⟩

/-- Brackets at the end of a segment, next to a dot and alone in a segment are told from those that
quote. -/
theorem segments?_quote_brackets :
    let caps := Dialect.mssql.capabilities
    let name : Text := "a]].].[b"
    caps.closeQuote ≠ '.' ∧ caps.quote name = "[a]]]]].[]]].[[b]".toList ∧
      caps.segments? "[a]]]]].[]]].[[b]" = some ["a]]".toList, "]".toList, "[b".toList] ∧
      ∀ column, isIdentifier column = true → caps.quote column = caps.enclose column := by
  intro caps name
  have other : caps.closeQuote ≠ '.' := by decide
  have quoted : caps.quote name = "[a]]]]].[]]].[[b]".toList := by decide
  obtain ⟨read, -, -, -, identifiers⟩ := segments?_quote other
  exact ⟨other, quoted, quoted ▸ read name, identifiers.2 (by decide)⟩

/-- A table may quote with a character of names, and then an identifier is altered. -/
theorem quote_underscored :
    let caps := { Dialect.sqlite.capabilities with openQuote := '_', closeQuote := '_' }
    let name : Text := "user_id"
    caps.closeQuote ≠ '.' ∧ isIdentifier name = true ∧
      caps.quote name = "_user__id_".toList ∧ caps.enclose name = "_user_id_".toList := by
  decide

end Capabilities

end FilterSql
