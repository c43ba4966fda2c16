/-
# FilterSql.Proofs.Text.Ends -- what stands at the two ends of a text

Trimming leaves a text without a blank at either end and changes no text that has none there, so a
second trimming does nothing. SQL text is put together from parts, and what is at the end of the
whole is at the end of its last part: `EndsSolid` follows a text through concatenation and joining,
and it is what makes the final trimming of a statement harmless.
-/

import FilterSql.Text.Split

namespace FilterSql

/-! ## Where two texts part -/

/-- Where two texts go on behind characters of a kind with characters that are not, they part at the
same place. -/
theorem append_cons_inj {keep : Char → Bool} {front front' rest rest' : Text} {c c' : Char}
    (h : ∀ d ∈ front, keep d = true) (h' : ∀ d ∈ front', keep d = true) (stop : keep c = false)
    (stop' : keep c' = false) (same : front ++ c :: rest = front' ++ c' :: rest') :
    front = front' ∧ c = c' ∧ rest = rest' := by
  have first : ∀ {l t : Text} {d : Char}, (∀ e ∈ l, keep e = true) → keep d = false →
      (l ++ d :: t).takeWhile keep = l := by
    intro l t d kept stop
    rw [List.takeWhile_append_of_pos kept, List.takeWhile_cons_of_neg (by simp [stop]),
      List.append_nil]
  have fronts := congrArg (List.takeWhile keep) same
  rw [first h stop, first h' stop'] at fronts
  subst fronts
  exact ⟨rfl, List.cons.inj (List.append_cancel_left same)⟩

/-- Where a text goes on behind characters of a kind, a character of another kind is behind them. -/
theorem exists_append_of_forall {keep : Char → Bool} {front t x r : Text} {c : Char}
    (h : ∀ d ∈ front, keep d = true) (stop : keep c = false) (same : front ++ t = x ++ c :: r) :
    ∃ x', x = front ++ x' ∧ t = x' ++ c :: r := by
  rcases List.append_eq_append_iff.1 same with ⟨x', whole, rest⟩ | ⟨back, rfl, rest⟩
  · exact ⟨x', whole, rest⟩
  · cases back with
    | nil => exact ⟨[], by simp, rest.symm⟩
    | cons d back =>
      obtain ⟨rfl, -⟩ := List.cons.inj rest
      rw [h c (by simp)] at stop
      cases stop

/-- Where a text ends in characters of a kind, a character of another kind is before them. -/
theorem exists_append_of_forall_right {keep : Char → Bool} {t back x r : Text} {c : Char}
    (h : ∀ d ∈ back, keep d = true) (stop : keep c = false) (same : t ++ back = x ++ c :: r) :
    ∃ r', r = r' ++ back ∧ t = x ++ c :: r' := by
  have turned := congrArg List.reverse same
  rw [List.reverse_append, List.reverse_append, List.reverse_cons, List.append_assoc,
    List.singleton_append] at turned
  obtain ⟨r', front, rest⟩ :=
    exists_append_of_forall (fun d hd => h d (List.mem_reverse.1 hd)) stop turned
  refine ⟨r'.reverse, ?_, ?_⟩
  · simpa using congrArg List.reverse front
  · simpa using congrArg List.reverse rest

namespace Text

/-- Where two texts end in characters of a kind behind characters that are not, they part at the
same place. -/
theorem append_cons_inj_right {keep : Char → Bool} {front front' rest rest' : Text} {c c' : Char}
    (h : ∀ d ∈ rest, keep d = true) (h' : ∀ d ∈ rest', keep d = true) (stop : keep c = false)
    (stop' : keep c' = false) (same : front ++ c :: rest = front' ++ c' :: rest') :
    front = front' ∧ c = c' ∧ rest = rest' := by
  have turned := congrArg List.reverse same
  simp only [List.reverse_append, List.reverse_cons, List.append_assoc, List.singleton_append]
    at turned
  obtain ⟨rests, marks, fronts⟩ := append_cons_inj
    (fun d hd => h d (List.mem_reverse.1 hd)) (fun d hd => h' d (List.mem_reverse.1 hd)) stop stop'
    turned
  exact ⟨List.reverse_inj.1 fronts, marks, List.reverse_inj.1 rests⟩

/-! ## Trimmed texts -/

/-- No blank stands at either end. -/
def IsTrimmed (s : Text) : Prop :=
  (∀ c ∈ s.head?, isBlank c = false) ∧ ∀ c ∈ s.getLast?, isBlank c = false

instance : DecidablePred IsTrimmed := fun s =>
  @instDecidableAnd _ _ (Option.decidableForallMem s.head?) (Option.decidableForallMem s.getLast?)

theorem head?_trimStart {s : Text} : ∀ c ∈ (trimStart s).head?, isBlank c = false := by
  intro c hc
  have h := List.head?_dropWhile_not isBlank s
  rw [show s.dropWhile isBlank = trimStart s from rfl, Option.mem_def.1 hc] at h
  exact h

theorem getLast?_trimEnd {s : Text} : ∀ c ∈ (trimEnd s).getLast?, isBlank c = false := by
  intro c hc
  rw [trimEnd, List.getLast?_reverse] at hc
  exact head?_trimStart (s := s.reverse) c hc

/-- What is left of a text without the blanks it ends with is the front of it. -/
theorem trimEnd_prefix (s : Text) : trimEnd s <+: s := by
  rw [trimEnd, ← List.reverse_suffix, List.reverse_reverse]
  exact List.dropWhile_suffix isBlank

/-- Trimming takes off blanks only. -/
theorem exists_eq_append_trim (s : Text) :
    ∃ before after : Text, s = before ++ trim s ++ after ∧
      (∀ c ∈ before, isBlank c = true) ∧ ∀ c ∈ after, isBlank c = true := by
  refine ⟨s.takeWhile isBlank, ((trimStart s).reverse.takeWhile isBlank).reverse, ?_, ?_, ?_⟩
  · rw [List.append_assoc, trim, trimEnd, ← List.reverse_append, List.takeWhile_append_dropWhile,
      List.reverse_reverse, trimStart, List.takeWhile_append_dropWhile]
  · exact fun c hc => List.all_eq_true.1 List.all_takeWhile c hc
  · exact fun c hc => List.all_eq_true.1 List.all_takeWhile c (List.mem_reverse.1 hc)

theorem mem_of_mem_trim {s : Text} {c : Char} (h : c ∈ trim s) : c ∈ s := by
  obtain ⟨before, after, whole, -, -⟩ := exists_eq_append_trim s
  rw [whole]
  simp [h]

theorem isTrimmed_trim (s : Text) : IsTrimmed (trim s) := by
  refine ⟨fun c hc => ?_, getLast?_trimEnd⟩
  obtain ⟨rest, h⟩ := trimEnd_prefix (trimStart s)
  -- The first character of a front that is not empty is the first character of the whole.
  refine head?_trimStart (s := s) c ?_
  cases front : trim s with
  | nil => simp [front] at hc
  | cons d r =>
    rw [front] at hc
    rw [← h, show trimEnd (trimStart s) = d :: r from front]
    exact hc

theorem trim_eq_self_iff {s : Text} : trim s = s ↔ IsTrimmed s := by
  constructor
  · intro h
    exact h ▸ isTrimmed_trim s
  · exact fun h => trim_eq_self h.1 h.2

@[simp]
theorem trim_trim (s : Text) : trim (trim s) = trim s := trim_eq_self_iff.2 (isTrimmed_trim s)

theorem mem_nonblank {s : Text} {pieces : List Text} :
    s ∈ nonblank pieces ↔ s ≠ [] ∧ ∃ piece ∈ pieces, trim piece = s := by
  simp [nonblank, and_comm]

/-- The pieces of a text have no blank at either end, and none of them is empty. -/
theorem isTrimmed_of_mem_nonblank {s : Text} {pieces : List Text} (h : s ∈ nonblank pieces) :
    IsTrimmed s ∧ s ≠ [] := by
  obtain ⟨ne, piece, -, rfl⟩ := mem_nonblank.1 h
  exact ⟨isTrimmed_trim piece, ne⟩

/-! ## Blank texts -/

/-- Every character is blank. -/
def Blank (s : Text) : Prop := ∀ c ∈ s, isBlank c = true

instance : DecidablePred Blank := fun s => List.decidableBAll _ s

theorem blank_nil : Blank [] := List.forall_mem_nil _

theorem trimStart_append_of_blank {before : Text} (s : Text) (h : Blank before) :
    trimStart (before ++ s) = trimStart s := List.dropWhile_append_of_pos h

theorem trimEnd_append_of_blank {after : Text} (s : Text) (h : Blank after) :
    trimEnd (s ++ after) = trimEnd s := by
  have turned : Blank after.reverse := fun c hc => h c (List.mem_reverse.1 hc)
  have start := trimStart_append_of_blank s.reverse turned
  rw [trimEnd, List.reverse_append]
  exact congrArg List.reverse start

/-- Blanks before a solid character are what trimming takes off. -/
theorem trimStart_append_of_head {blanks s : Text} (h : Blank blanks)
    (solid : ∀ c ∈ s.head?, isBlank c = false) : trimStart (blanks ++ s) = s := by
  rw [trimStart_append_of_blank s h]
  cases s with
  | nil => rfl
  | cons c rest => exact List.dropWhile_cons_of_neg (by simp [solid c rfl])

/-- Trimming leaves nothing of a blank text, and something of every other. -/
theorem trim_eq_nil_iff {s : Text} : trim s = [] ↔ Blank s := by
  constructor
  · intro nothing c hc
    obtain ⟨before, after, whole, blankBefore, blankAfter⟩ := exists_eq_append_trim s
    rw [whole, nothing, List.append_nil, List.mem_append] at hc
    exact hc.elim (blankBefore c) (blankAfter c)
  · intro blank
    have start : trimStart s = [] := by
      cases left : trimStart s with
      | nil => rfl
      | cons c rest =>
        have solid : isBlank c = false := head?_trimStart (s := s) c (by rw [left]; rfl)
        have mem : c ∈ trimStart s := by simp [left]
        rw [blank c ((List.dropWhile_sublist isBlank).mem mem)] at solid
        cases solid
    rw [trim, start]
    rfl

/-- No piece is left when all of them are blank. -/
theorem nonblank_eq_nil_iff {pieces : List Text} :
    nonblank pieces = [] ↔ ∀ piece ∈ pieces, Blank piece := by
  simp [nonblank, trim_eq_nil_iff]

/-! ## Texts with a solid end -/

/-- The text ends, and with a character that is not blank. -/
def EndsSolid (s : Text) : Prop := ∃ c, s.getLast? = some c ∧ isBlank c = false

theorem EndsSolid.ne_nil {s : Text} (h : EndsSolid s) : s ≠ [] := by
  rintro rfl
  obtain ⟨c, hc, -⟩ := h
  cases hc

theorem IsTrimmed.endsSolid {s : Text} (h : IsTrimmed s) (ne : s ≠ []) : EndsSolid s :=
  ⟨s.getLast ne, List.getLast?_eq_some_getLast ne,
    h.2 _ (List.getLast?_eq_some_getLast ne)⟩

/-- Whatever stands in front, a concatenation ends like its second part. -/
theorem EndsSolid.append {s : Text} (front : Text) (h : EndsSolid s) : EndsSolid (front ++ s) := by
  obtain ⟨c, hc, solid⟩ := h
  exact ⟨c, by rw [List.getLast?_append, hc, Option.some_or], solid⟩

theorem EndsSolid.cons {s : Text} (c : Char) (h : EndsSolid s) : EndsSolid (c :: s) :=
  h.append [c]

theorem endsSolid_intercalate {separator : Text} {parts : List Text} (ne : parts ≠ [])
    (h : ∀ part ∈ parts, EndsSolid part) : EndsSolid (separator.intercalate parts) := by
  induction parts with
  | nil => exact absurd rfl ne
  | cons part rest ih =>
    cases rest with
    | nil =>
      rw [List.intercalate_singleton]
      exact h part (by simp)
    | cons next rest =>
      rw [List.intercalate_cons_cons]
      exact (ih (by simp) fun p hp => h p (List.mem_cons_of_mem part hp)).append _

theorem trimEnd_eq_self_of_endsSolid {s : Text} (h : EndsSolid s) : trimEnd s = s := by
  obtain ⟨c, hc, solid⟩ := h
  rw [List.getLast?_eq_head?_reverse] at hc
  unfold trimEnd
  cases back : s.reverse with
  | nil => simp [back] at hc
  | cons d rest =>
    rw [back, List.head?_cons, Option.some.injEq] at hc
    rw [List.dropWhile_cons, hc, solid, if_neg Bool.false_ne_true, ← hc, ← back,
      List.reverse_reverse]

/-- A text with a solid end that does not start with a blank is its own trimmed form. -/
theorem trim_eq_self_of_endsSolid {s : Text} (first : ∀ c ∈ s.head?, isBlank c = false)
    (h : EndsSolid s) : trim s = s := by
  obtain ⟨c, hc, solid⟩ := h
  refine trim_eq_self first fun d hd => ?_
  rw [hc, Option.mem_def, Option.some.injEq] at hd
  exact hd ▸ solid

end Text

end FilterSql
