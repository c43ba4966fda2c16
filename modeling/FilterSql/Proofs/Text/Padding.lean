/-
# FilterSql.Proofs.Text.Padding -- blanks around pieces do not count

Pieces are trimmed after a text is cut at its commas, and the whole is trimmed before. So blanks
around any of the pieces, the first and the last included, lead to the same pieces, and so do blank
pieces between them: `Spread`. What is needed of a piece is that cutting leaves it whole: it is
closed in the sense of `closedFrom`, or without commas where every comma cuts, and blanks around it
keep it so, for none of them is a comma or a parenthesis.
-/

import Mathlib.Data.List.Forall2
import FilterSql.Proofs.Text.Cuts

namespace FilterSql

namespace Text

/-! ## Blanks at the ends -/

/-- The text with blanks around it. -/
def Padded (s piece : Text) : Prop :=
  ∃ before after : Text, Blank before ∧ Blank after ∧ piece = before ++ s ++ after

/-- A text is its trimmed form with blanks around it. -/
theorem padded_trim (s : Text) : Padded (trim s) s := by
  obtain ⟨before, after, whole, blankBefore, blankAfter⟩ := exists_eq_append_trim s
  exact ⟨before, after, blankBefore, blankAfter, whole⟩

/-- Blanks around a trimmed text are what trimming takes off. -/
theorem Padded.trim_eq {s piece : Text} (h : Padded s piece) (trimmed : IsTrimmed s) :
    trim piece = s := by
  obtain ⟨before, after, blankBefore, blankAfter, rfl⟩ := h
  rw [List.append_assoc, trim, trimStart_append_of_blank _ blankBefore]
  cases s with
  | nil =>
    have nothing : trimStart after = [] := by
      have blank := trimStart_append_of_blank [] blankAfter
      rwa [List.append_nil] at blank
    rw [List.nil_append, nothing]
    rfl
  | cons c rest =>
    have solid : trimStart (c :: rest ++ after) = c :: rest ++ after :=
      List.dropWhile_cons_of_neg (by simp [trimmed.1 c rfl])
    rw [solid, trimEnd_append_of_blank _ blankAfter]
    exact trimEnd_eq_self_of_endsSolid (trimmed.endsSolid (List.cons_ne_nil c rest))

/-- Blanks in front of a text or behind it are taken off with its own. -/
theorem trim_append_of_blank {before after : Text} (s : Text) (hb : Blank before)
    (ha : Blank after) : trim (before ++ s ++ after) = trim s := by
  obtain ⟨b, a, blankB, blankA, whole⟩ := padded_trim s
  have padded : Padded (trim s) (before ++ s ++ after) := by
    refine ⟨before ++ b, a ++ after, ?_, ?_, ?_⟩
    · exact fun c hc => (List.mem_append.1 hc).elim (hb c) (blankB c)
    · exact fun c hc => (List.mem_append.1 hc).elim (blankA c) (ha c)
    · have widened := congrArg (before ++ · ++ after) whole
      simpa using widened
  exact padded.trim_eq (isTrimmed_trim s)

/-! ## Blanks around closed pieces -/

theorem closedFrom_of_blank {s : Text} (h : Blank s) : closedFrom 0 s = true := by
  apply closedFrom_of_forall
  intro c hc
  have blank := h c hc
  refine ⟨?_, ?_, ?_⟩ <;> rintro rfl <;> cases blank

theorem Padded.closedFrom {s piece : Text} (h : Padded s piece) (closed : closedFrom 0 s = true) :
    closedFrom 0 piece = true := by
  obtain ⟨before, after, blankBefore, blankAfter, rfl⟩ := h
  apply closedFrom_append
  · exact closedFrom_append (closedFrom_of_blank blankBefore) closed
  · exact closedFrom_of_blank blankAfter

/-- Blanks behind a text are behind its last piece. -/
theorem exists_cutsFrom_append_of_blank {after : Text} (depth : Nat) (s : Text) (h : Blank after) :
    ∃ front last, cutsFrom depth s = front ++ [last] ∧
      cutsFrom depth (s ++ after) = front ++ [last ++ after] := by
  induction s generalizing depth with
  | nil =>
    -- No comma is a blank, so nothing is cut off at any depth.
    have uncut : ∀ (d : Nat) (s : Text), Blank s → cutsFrom d s = [s] := by
      intro d s blank
      induction s generalizing d with
      | nil => rfl
      | cons c rest ih =>
        have other : ¬ (c = ',' ∧ d = 0) := by
          rintro ⟨rfl, -⟩
          cases blank ',' List.mem_cons_self
        rw [cutsFrom, if_neg other, ih _ fun e he => blank e (List.mem_cons_of_mem c he)]
        rfl
    exact ⟨[], [], rfl, uncut depth after h⟩
  | cons c rest ih =>
    rw [List.cons_append, cutsFrom, cutsFrom]
    split
    · obtain ⟨front, last, whole, padded⟩ := ih 0
      exact ⟨[] :: front, last, by rw [whole]; rfl, by rw [padded]; rfl⟩
    · obtain ⟨front, last, whole, padded⟩ := ih (depthAfter depth c)
      rw [whole, padded]
      cases front with
      | nil => exact ⟨[], c :: last, rfl, rfl⟩
      | cons first others => exact ⟨(c :: first) :: others, last, rfl, rfl⟩

theorem nonblank_append (first second : List Text) :
    nonblank (first ++ second) = nonblank first ++ nonblank second := by
  simp [nonblank]

/-- Blanks around the whole are around its first and its last piece. -/
theorem terms_trim (s : Text) : terms (trim s) = terms s := by
  obtain ⟨before, after, blankBefore, blankAfter, whole⟩ := padded_trim s
  have behind : terms (trim s ++ after) = terms (trim s) := by
    obtain ⟨front, last, cut, padded⟩ := exists_cutsFrom_append_of_blank 0 (trim s) blankAfter
    have same : trim (last ++ after) = trim last :=
      trim_append_of_blank last blank_nil blankAfter
    rw [terms, terms, cut, padded, nonblank_append, nonblank_append]
    simp [nonblank, same]
  have ahead : terms (before ++ (trim s ++ after)) = terms (trim s ++ after) := by
    obtain ⟨first, others, cut⟩ :=
      List.exists_cons_of_ne_nil (cutsFrom_ne_nil 0 (trim s ++ after))
    have same : trim (before ++ first) = trim first := by
      have blank := trim_append_of_blank first blankBefore blank_nil
      rwa [List.append_nil] at blank
    rw [terms, terms, cutsFrom_append _ (closedFrom_of_blank blankBefore), cut]
    simp [nonblank, same]
  rw [← behind, ← ahead, ← List.append_assoc, ← whole]

/-! ## Blank pieces between others -/

/-- The pieces are the texts in order, with blanks around each and blank pieces at any places. -/
inductive Spread : List Text → List Text → Prop where
  /-- Nothing is left. -/
  | nil : Spread [] []
  /-- The next text, padded. -/
  | text {s piece : Text} {texts pieces : List Text} : Padded s piece → Spread texts pieces →
      Spread (s :: texts) (piece :: pieces)
  /-- A blank piece. -/
  | blank {piece : Text} {texts pieces : List Text} : Blank piece → Spread texts pieces →
      Spread texts (piece :: pieces)

namespace Spread

variable {texts pieces : List Text}

theorem of_padded (h : List.Forall₂ Padded texts pieces) : Spread texts pieces := by
  induction h with
  | nil => exact .nil
  | cons padded _ ih => exact .text padded ih

/-- What holds of blank texts and of the padded ones holds of every piece. -/
theorem forall_mem {P : Text → Prop} (h : Spread texts pieces) (blank : ∀ s, Blank s → P s)
    (padded : ∀ s ∈ texts, ∀ piece, Padded s piece → P piece) : ∀ piece ∈ pieces, P piece := by
  induction h with
  | nil => exact List.forall_mem_nil _
  | text first _ ih =>
    obtain ⟨here, others⟩ := List.forall_mem_cons.1 padded
    exact List.forall_mem_cons.2 ⟨here _ first, ih others⟩
  | blank first _ ih => exact List.forall_mem_cons.2 ⟨blank _ first, ih padded⟩

/-- Trimming leaves the texts, and nothing of a blank piece. -/
theorem nonblank_eq (h : Spread texts pieces) (regular : ∀ s ∈ texts, IsTrimmed s ∧ s ≠ []) :
    nonblank pieces = texts := by
  induction h with
  | nil => rfl
  | @text s piece texts pieces padded _ ih =>
    obtain ⟨⟨trimmed, ne⟩, others⟩ := List.forall_mem_cons.1 regular
    have head : nonblank [piece] = [s] := by simp [nonblank, padded.trim_eq trimmed, ne]
    rw [← List.singleton_append, nonblank_append, head, ih others]
    rfl
  | @blank piece texts pieces blank _ ih =>
    have head : nonblank [piece] = [] :=
      nonblank_eq_nil_iff.2 fun _ mem => List.mem_singleton.1 mem ▸ blank
    rw [← List.singleton_append, nonblank_append, head, ih regular, List.nil_append]

/-- Closed texts that are spread over pieces are the terms of the joined pieces. -/
theorem terms_eq (h : Spread texts pieces)
    (regular : ∀ s ∈ texts, IsTrimmed s ∧ s ≠ [] ∧ closedFrom 0 s = true) :
    terms ([','].intercalate pieces) = texts := by
  have closed : ∀ piece ∈ pieces, closedFrom 0 piece = true :=
    h.forall_mem (fun _ => closedFrom_of_blank) fun s hs _ padded =>
      padded.closedFrom (regular s hs).2.2
  rw [terms_intercalate closed]
  exact h.nonblank_eq fun s hs => ⟨(regular s hs).1, (regular s hs).2.1⟩

/-- Texts without commas that are spread over pieces are the items of the joined pieces. -/
theorem items_eq (h : Spread texts pieces)
    (regular : ∀ s ∈ texts, IsTrimmed s ∧ s ≠ [] ∧ ',' ∉ s) :
    items ([','].intercalate pieces) = texts := by
  have comma : ∀ s : Text, Blank s → ',' ∉ s := fun _ blank mem => by cases blank _ mem
  have uncut : ∀ piece ∈ pieces, ',' ∉ piece := by
    refine h.forall_mem comma fun s hs piece padded => ?_
    obtain ⟨before, after, blankBefore, blankAfter, rfl⟩ := padded
    simp [comma before blankBefore, comma after blankAfter, (regular s hs).2.2]
  rw [items_intercalate uncut]
  exact h.nonblank_eq fun s hs => ⟨(regular s hs).1, (regular s hs).2.1⟩

end Spread

/-- Closed texts that are joined by commas with blanks around each are the terms of the whole. -/
theorem terms_of_padded {texts pieces : List Text} (h : List.Forall₂ Padded texts pieces)
    (regular : ∀ s ∈ texts, IsTrimmed s ∧ s ≠ [] ∧ closedFrom 0 s = true) :
    terms ([','].intercalate pieces) = texts :=
  (Spread.of_padded h).terms_eq regular

/-! ## Blanks around a list -/

/-- A list starts like its first piece and ends like its last, apart from blanks. -/
theorem exists_trim_of_padded {texts pieces : List Text} (h : List.Forall₂ Padded texts pieces)
    (regular : ∀ s ∈ texts, IsTrimmed s ∧ s ≠ []) (ne : texts ≠ []) :
    ∃ core, Padded core ([','].intercalate pieces) ∧ IsTrimmed core ∧ core ≠ [] ∧
      core.head? = ([','].intercalate texts).head? ∧
      core.getLast? = ([','].intercalate texts).getLast? := by
  induction h with
  | nil => exact absurd rfl ne
  | @cons s piece texts pieces padded rest ih =>
    obtain ⟨⟨trimmed, filled⟩, others⟩ := List.forall_mem_cons.1 regular
    cases rest with
    | nil =>
      rw [List.intercalate_singleton, List.intercalate_singleton]
      exact ⟨s, padded, trimmed, filled, rfl, rfl⟩
    | @cons s' piece' texts pieces padded' rest =>
      obtain ⟨core, ⟨b', a', -, blank', whole⟩, ends, rest_filled, -, last⟩ :=
        ih others (List.cons_ne_nil _ _)
      obtain ⟨b, a, blank, -, rfl⟩ := padded
      have joined : [','].intercalate (s' :: texts) ≠ [] := by
        intro empty
        rw [empty] at last
        exact rest_filled (List.getLast?_eq_none_iff.1 last)
      have head : ∀ t : Text, (s ++ t).head? = s.head? := fun t =>
        List.head?_append_of_ne_nil _ filled
      have tail : ∀ t : Text, (t ++ core).getLast? = core.getLast? := fun t =>
        List.getLast?_append_of_ne_nil _ rest_filled
      rw [List.intercalate_cons_cons, List.intercalate_cons_cons, whole,
        List.append_assoc s [','], List.getLast?_append_of_ne_nil s (by simp),
        List.getLast?_append_of_ne_nil [','] joined, head, ← last]
      refine ⟨s ++ (a ++ ',' :: b') ++ core, ⟨b, a', blank, blank', by simp⟩, ⟨?_, ?_⟩,
        by simp [filled], ?_, tail _⟩
      · rw [List.append_assoc, head]
        exact trimmed.1
      · rw [tail]
        exact ends.2
      · rw [List.append_assoc, head]

/-- A text that does not start with an opening and end with a closing parenthesis has no wrapper. -/
theorem unwrap_eq_self {s : Text} (h : ¬ (s.head? = some '(' ∧ s.getLast? = some ')')) :
    unwrap s = s := by
  unfold unwrap
  split
  · next rest =>
    refine if_neg fun last => h ⟨rfl, ?_⟩
    rw [List.getLast?_cons, last]
    rfl
  · rfl

/-- Blanks around the pieces of a list make no wrapper. -/
theorem unwrap_trim_of_padded {texts pieces : List Text} (h : List.Forall₂ Padded texts pieces)
    (regular : ∀ s ∈ texts, IsTrimmed s ∧ s ≠ [])
    (bare : ¬ (([','].intercalate texts).head? = some '(' ∧
      ([','].intercalate texts).getLast? = some ')')) :
    unwrap (trim ([','].intercalate pieces)) = trim ([','].intercalate pieces) := by
  by_cases empty : texts = []
  · cases empty
    cases h
    rfl
  · obtain ⟨core, padded, trimmed, -, head, last⟩ := exists_trim_of_padded h regular empty
    rw [padded.trim_eq trimmed]
    apply unwrap_eq_self
    rwa [head, last]

end Text

end FilterSql
