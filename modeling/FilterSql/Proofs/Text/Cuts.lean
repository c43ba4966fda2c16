/-
# FilterSql.Proofs.Text.Cuts -- texts that are cut where they were joined

Cutting a text at a mark gives back the two halves when the mark does not stand in the first one.
Cutting at the commas that no parenthesis encloses gives back the joined pieces when each of them is
closed: its parentheses are its own, and its commas are between them. `closedFrom` follows the depth
through a text in the way the cutting does.
-/

import FilterSql.Proofs.Text.Ends

namespace FilterSql

/-! ## At the first mark -/

/-- The first half is what stands before a mark whose first character it does not contain. -/
theorem cut?_append_mark {α : Type} [BEq α] [LawfulBEq α] {a : α} {before : List α}
    (mark after : List α) (h : a ∉ before) :
    cut? (a :: mark) (before ++ (a :: mark) ++ after) = some (before, after) := by
  induction before with
  | nil =>
    have front : (a :: mark).isPrefixOf (a :: (mark ++ after)) = true :=
      List.isPrefixOf_iff_prefix.2 (List.prefix_append (a :: mark) after)
    rw [List.nil_append, List.cons_append, cut?, if_pos front]
    simp
  | cons b rest ih =>
    rw [List.mem_cons, not_or] at h
    have first : (a :: mark).isPrefixOf (b :: (rest ++ (a :: mark) ++ after)) = false := by
      simp [List.isPrefixOf, h.1]
    rw [List.cons_append, List.cons_append, cut?, first, if_neg Bool.false_ne_true, ih h.2]
    rfl

/-- The first half is what stands before a character that it does not contain. -/
theorem cut?_append {α : Type} [BEq α] [LawfulBEq α] {a : α} {before : List α} (after : List α)
    (h : a ∉ before) : cut? [a] (before ++ a :: after) = some (before, after) := by
  have cut := cut?_append_mark [] after h
  rwa [List.append_assoc] at cut

/-- The first half does not contain the character that it stands before. -/
theorem not_mem_of_cut? {α : Type} [BEq α] [LawfulBEq α] {a : α} {s before after : List α}
    (h : cut? [a] s = some (before, after)) : a ∉ before := by
  induction s generalizing before with
  | nil => cases h
  | cons b rest ih =>
    unfold cut? at h
    split at h
    · cases h
      simp
    · next different =>
      obtain ⟨halves, cut, same⟩ := Option.map_eq_some_iff.1 h
      cases same
      have other : a ≠ b := by
        rintro rfl
        simp at different
      exact List.not_mem_cons_of_ne_of_not_mem other (ih cut)

/-- Where the mark does not stand, nothing is cut. -/
theorem cut?_eq_none {α : Type} [BEq α] [LawfulBEq α] {mark s : List α} (h : ¬ mark <:+: s) :
    cut? mark s = none := by
  cases cut : cut? mark s with
  | none => rfl
  | some halves => exact absurd ⟨_, _, (eq_append_of_cut? cut).symm⟩ h

/-- A mark is found where it occurs. -/
theorem isSome_cut?_iff {α : Type} [BEq α] [LawfulBEq α] {mark s : List α} (ne : mark ≠ []) :
    (cut? mark s).isSome = true ↔ mark <:+: s := by
  constructor
  · intro found
    obtain ⟨halves, cut⟩ := Option.isSome_iff_exists.1 found
    exact ⟨_, _, (eq_append_of_cut? cut).symm⟩
  · rintro ⟨before, after, rfl⟩
    induction before with
    | nil =>
      obtain ⟨a, rest, rfl⟩ := List.exists_cons_of_ne_nil ne
      have here : (a :: rest).isPrefixOf (a :: (rest ++ after)) = true :=
        List.isPrefixOf_iff_prefix.2 ⟨after, rfl⟩
      rw [List.nil_append, List.cons_append, cut?, if_pos here]
      rfl
    | cons a before ih =>
      rw [List.cons_append, List.cons_append, cut?]
      split
      · rfl
      · rw [Option.isSome_map]
        exact ih

/-- No piece between occurrences of a character contains it. -/
theorem not_mem_of_mem_splitOn {α : Type} [BEq α] [LawfulBEq α] {a : α} {l piece : List α}
    (h : piece ∈ l.splitOn a) : a ∉ piece := by
  induction l generalizing piece with
  | nil => simp_all
  | cons b rest ih =>
    rw [List.splitOn_cons_eq_if_modifyHead] at h
    split at h
    · rcases List.mem_cons.1 h with rfl | h
      · exact List.not_mem_nil
      · exact ih h
    · next different =>
      -- The first piece grows by a character that is not the mark, the others stay.
      obtain ⟨first, others, cut⟩ := List.exists_cons_of_ne_nil (List.splitOn_ne_nil a rest)
      rw [cut] at h ih
      rw [List.modifyHead_cons] at h
      rcases List.mem_cons.1 h with rfl | h
      · rw [List.mem_cons, not_or]
        exact ⟨fun same => different (beq_iff_eq.2 same.symm), ih List.mem_cons_self⟩
      · exact ih (List.mem_cons_of_mem first h)

/-! ## Joined lists -/

theorem map_intercalate {α β : Type} (f : α → β) (separator : List α) (parts : List (List α)) :
    (separator.intercalate parts).map f =
      (separator.map f).intercalate (parts.map (List.map f)) := by
  induction parts with
  | nil => rfl
  | cons part rest ih =>
    by_cases last : rest = []
    · simp [last]
    · rw [List.intercalate_cons_of_ne_nil last, List.map_cons,
        List.intercalate_cons_of_ne_nil (by simpa using last), List.map_append, List.map_append, ih]

/-- Lists that are joined apart are joined by one more separator. -/
theorem intercalate_append {α : Type} (separator : List α) {front back : List (List α)}
    (hf : front ≠ []) (hb : back ≠ []) :
    separator.intercalate (front ++ back) =
      separator.intercalate front ++ separator ++ separator.intercalate back := by
  induction front with
  | nil => exact absurd rfl hf
  | cons part rest ih =>
    by_cases last : rest = []
    · rw [last, List.singleton_append, List.intercalate_cons_of_ne_nil hb,
        List.intercalate_singleton]
    · have more : rest ++ back ≠ [] := by simp [last]
      rw [List.cons_append, List.intercalate_cons_of_ne_nil more,
        List.intercalate_cons_of_ne_nil last, ih last]
      simp

/-- Of a separator that gives rise to nothing, nothing is seen. -/
theorem flatMap_intercalate {α β : Type} (f : α → List β) {separator : List α}
    (h : separator.flatMap f = []) (parts : List (List α)) :
    (separator.intercalate parts).flatMap f = parts.flatMap (List.flatMap f) := by
  induction parts with
  | nil => rfl
  | cons part rest ih =>
    by_cases last : rest = []
    · simp [last]
    · rw [List.intercalate_cons_of_ne_nil last, List.flatMap_append, List.flatMap_append, ih, h,
        List.append_nil, List.flatMap_cons]

/-- A joined list is about as long as it has parts, for there is a separator between any two. -/
theorem length_le_length_intercalate {α : Type} {separator : List α} (ne : separator ≠ [])
    (parts : List (List α)) : parts.length ≤ (separator.intercalate parts).length + 1 := by
  have separated := List.length_pos_iff.2 ne
  induction parts with
  | nil => exact Nat.zero_le _
  | cons part others ih =>
    by_cases last : others = []
    · simp [last]
    · rw [List.intercalate_cons_of_ne_nil last, List.length_append, List.length_append,
        List.length_cons]
      omega

namespace Text

/-! ## Pieces without blanks at their ends -/

/-- Trimmed pieces that are not empty stay as they are. -/
theorem nonblank_eq_self {pieces : List Text} (h : ∀ piece ∈ pieces, IsTrimmed piece ∧ piece ≠ []) :
    nonblank pieces = pieces := by
  have trimmed : pieces.map trim = pieces := by
    have each : ∀ piece ∈ pieces, trim piece = piece := fun piece hp =>
      trim_eq_self_iff.2 (h piece hp).1
    rw [List.map_congr_left each, List.map_id']
  rw [nonblank, trimmed, List.filter_eq_self]
  intro piece hp
  exact decide_eq_true (h piece hp).2

/-- An item is trimmed, not empty and without commas. -/
theorem regular_of_mem_items {s item : Text} (h : item ∈ items s) :
    IsTrimmed item ∧ item ≠ [] ∧ ',' ∉ item := by
  obtain ⟨trimmed, ne⟩ := isTrimmed_of_mem_nonblank h
  obtain ⟨-, piece, mem, rfl⟩ := mem_nonblank.1 h
  exact ⟨trimmed, ne, fun comma => not_mem_of_mem_splitOn mem (mem_of_mem_trim comma)⟩

/-- The items of pieces joined by commas are the trimmed pieces, blank ones left out. -/
theorem items_intercalate {pieces : List Text} (h : ∀ piece ∈ pieces, ',' ∉ piece) :
    items ([','].intercalate pieces) = nonblank pieces := by
  cases pieces with
  | nil => rfl
  | cons piece rest => rw [items, List.splitOn_intercalate ',' h (by simp)]

/-- Items joined by commas are the items again. -/
theorem items_intercalate_eq_self {pieces : List Text}
    (h : ∀ piece ∈ pieces, IsTrimmed piece ∧ piece ≠ [] ∧ ',' ∉ piece) :
    items ([','].intercalate pieces) = pieces := by
  rw [items_intercalate fun p hp => (h p hp).2.2]
  exact nonblank_eq_self fun p hp => ⟨(h p hp).1, (h p hp).2.1⟩

/-! ## At the commas that no parenthesis encloses -/

/-- Is a text that starts at the given depth closed: does neither a comma nor a closing parenthesis
stand at depth zero, and is the depth zero at its end? -/
def closedFrom (depth : Nat) : Text → Bool
  | [] => depth = 0
  | c :: rest =>
    !((c = ',' || c = ')') && depth = 0) && closedFrom (depthAfter depth c) rest

theorem closedFrom_append {depth : Nat} {s t : Text} (hs : closedFrom depth s = true)
    (ht : closedFrom 0 t = true) : closedFrom depth (s ++ t) = true := by
  induction s generalizing depth with
  | nil =>
    have zero : depth = 0 := of_decide_eq_true hs
    rw [zero]
    exact ht
  | cons c rest ih =>
    rw [closedFrom, Bool.and_eq_true] at hs
    rw [List.cons_append, closedFrom, Bool.and_eq_true]
    exact ⟨hs.1, ih hs.2⟩

/-- A text without commas and parentheses is closed. -/
theorem closedFrom_of_forall {s : Text} (h : ∀ c ∈ s, c ≠ ',' ∧ c ≠ '(' ∧ c ≠ ')') :
    closedFrom 0 s = true := by
  induction s with
  | nil => rfl
  | cons c rest ih =>
    obtain ⟨comma, opening, closing⟩ := h c (by simp)
    have same : depthAfter 0 c = 0 := by
      rw [depthAfter, if_neg opening, if_neg closing]
    have rest_closed := ih fun d hd => h d (List.mem_cons_of_mem c hd)
    simp [closedFrom, comma, closing, same, rest_closed]

/-- One level deeper a closed text is passed over, and the depth behind it is one. -/
theorem closedFrom_succ_append {depth : Nat} {s : Text} (rest : Text)
    (h : closedFrom depth s = true) : closedFrom (depth + 1) (s ++ rest) = closedFrom 1 rest := by
  induction s generalizing depth with
  | nil =>
    have zero : depth = 0 := of_decide_eq_true h
    rw [zero, List.nil_append]
  | cons c s ih =>
    rw [closedFrom, Bool.and_eq_true] at h
    -- No parenthesis of a closed text closes below the depth that it starts at.
    have deeper : depthAfter (depth + 1) c = depthAfter depth c + 1 := by
      unfold depthAfter
      split
      · rfl
      · split
        · next closing =>
          have positive : depth ≠ 0 := by
            rintro rfl
            simp [closing] at h
          omega
        · rfl
    rw [List.cons_append, closedFrom, deeper, ih h.2]
    simp

/-- Closed pieces between parentheses are closed, whatever commas are between them. -/
theorem closedFrom_parenthesized {pieces : List Text}
    (h : ∀ piece ∈ pieces, closedFrom 0 piece = true) :
    closedFrom 0 ('(' :: ([','].intercalate pieces ++ [')'])) = true := by
  have inside : ∀ rest : Text,
      closedFrom 1 ([','].intercalate pieces ++ rest) = closedFrom 1 rest := by
    intro rest
    induction pieces with
    | nil => rfl
    | cons piece others ih =>
      have first := h piece (by simp)
      cases others with
      | nil => rw [List.intercalate_singleton, closedFrom_succ_append rest first]
      | cons next others =>
        rw [List.intercalate_cons_cons, List.append_assoc, List.append_assoc,
          closedFrom_succ_append _ first, List.singleton_append]
        exact ih fun p hp => h p (List.mem_cons_of_mem piece hp)
  exact inside [')']

/-- No cut is made inside a closed text, and the depth behind it is zero. -/
theorem cutsFrom_append {depth : Nat} {s : Text} (rest : Text) (h : closedFrom depth s = true) :
    cutsFrom depth (s ++ rest) = (cutsFrom 0 rest).modifyHead (s ++ ·) := by
  -- By induction on the text at all depths: its parentheses lead away from zero and back.
  induction s generalizing depth with
  | nil =>
    have zero : depth = 0 := of_decide_eq_true h
    rw [zero, List.nil_append]
    exact (congrFun List.modifyHead_id (cutsFrom 0 rest)).symm
  | cons c s ih =>
    rw [closedFrom, Bool.and_eq_true] at h
    have uncut : ¬ (c = ',' ∧ depth = 0) := by
      rintro ⟨rfl, rfl⟩
      exact absurd h.1 (by decide)
    rw [List.cons_append, cutsFrom, if_neg uncut, ih h.2, List.modifyHead_modifyHead]
    rfl

/-- Closed pieces joined by commas are cut into those pieces. -/
theorem cutsFrom_intercalate {pieces : List Text} (ne : pieces ≠ [])
    (h : ∀ piece ∈ pieces, closedFrom 0 piece = true) :
    cutsFrom 0 ([','].intercalate pieces) = pieces := by
  induction pieces with
  | nil => exact absurd rfl ne
  | cons piece rest ih =>
    have first := h piece (by simp)
    cases rest with
    | nil =>
      have alone := cutsFrom_append [] first
      rw [List.append_nil] at alone
      rw [List.intercalate_singleton, alone]
      simp [cutsFrom]
    | cons next rest =>
      have others := ih (by simp) fun p hp => h p (List.mem_cons_of_mem piece hp)
      rw [List.intercalate_cons_cons, List.append_assoc, cutsFrom_append _ first,
        List.singleton_append, cutsFrom, if_pos ⟨rfl, rfl⟩, others]
      simp

/-- The terms of closed pieces joined by commas are the trimmed pieces, blank ones left out. -/
theorem terms_intercalate {pieces : List Text} (h : ∀ piece ∈ pieces, closedFrom 0 piece = true) :
    terms ([','].intercalate pieces) = nonblank pieces := by
  cases pieces with
  | nil => rfl
  | cons piece rest => rw [terms, cutsFrom_intercalate (by simp) h]

/-! ## Around the whole -/

/-- A text between parentheses loses them and nothing else. -/
theorem unwrap_trim_parenthesized (s : Text) : unwrap (trim ('(' :: (s ++ [')']))) = s := by
  have trimmed : trim ('(' :: (s ++ [')'])) = '(' :: (s ++ [')']) := by
    refine trim_eq_self_of_endsSolid ?_ (EndsSolid.cons _ (EndsSolid.append s ⟨')', rfl, rfl⟩))
    intro c hc
    cases hc
    decide
  rw [trimmed, unwrap, if_pos (by simp)]
  simp

end Text

end FilterSql
