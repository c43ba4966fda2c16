/-
# FilterSql.Proofs.Text.Terms -- where a text is cut into terms, and what is left out

A text is cut at the commas at depth zero, whether its parentheses are balanced or not: a closing
one too many leaves the depth at zero, and behind an opening one that is never closed no comma cuts.
Every stretch between two cuts starts at depth zero, and that is why cutting a stretch on its own
cuts nothing: `cuts_induction` goes through a text stretch by stretch, and what is said of terms
here is said of one stretch first.

`Laid` says how the terms stand in the text. It goes through it from left to right with the depth
and accounts for every character.
-/

import Mathlib.Data.List.Infix
import FilterSql.Proofs.Text.Padding

namespace FilterSql

namespace Text

/-! ## Balanced texts -/

/-- The parentheses of a text that starts at the given depth, and the commas between them. -/
structure Balanced (depth : Nat) (s : Text) : Prop where
  /-- Nowhere are more parentheses closed than are open. -/
  nested : ∀ front, front <+: s → front.count ')' ≤ depth + front.count '('
  /-- At the end all of them are closed. -/
  closed : s.count ')' = depth + s.count '('
  /-- In front of each comma one is open. -/
  enclosed : ∀ front, front ++ [','] <+: s → front.count ')' < depth + front.count '('

theorem balanced_nil_iff {depth : Nat} : Balanced depth [] ↔ depth = 0 := by
  constructor
  · intro h
    simpa using h.closed.symm
  · rintro rfl
    refine ⟨fun front h => ?_, rfl, fun front h => ?_⟩
    · simp [List.prefix_nil.1 h]
    · simp at h

/-- But for a closing parenthesis at depth zero, the depth counts what is open. -/
theorem depthAfter_add_count {depth : Nat} {c : Char} (h : ¬ (c = ')' ∧ depth = 0)) (rest : Text) :
    depthAfter depth c + rest.count '(' + (c :: rest).count ')' =
      depth + (c :: rest).count '(' + rest.count ')' := by
  unfold depthAfter
  split
  · next opening =>
    subst opening
    rw [List.count_cons_self, List.count_cons_of_ne (by decide)]
    omega
  · next other =>
    split
    · next closing =>
      have positive : depth ≠ 0 := fun zero => h ⟨closing, zero⟩
      subst closing
      rw [List.count_cons_self, List.count_cons_of_ne (by decide)]
      omega
    · next another => rw [List.count_cons_of_ne another, List.count_cons_of_ne other]

/-- Behind the first character a balanced text goes on at the depth that the character leads to. -/
theorem balanced_cons_iff {depth : Nat} {c : Char} {rest : Text} :
    Balanced depth (c :: rest) ↔
      ¬ ((c = ',' ∨ c = ')') ∧ depth = 0) ∧ Balanced (depthAfter depth c) rest := by
  constructor
  · intro h
    have first : ¬ ((c = ',' ∨ c = ')') ∧ depth = 0) := by
      rintro ⟨rfl | rfl, rfl⟩
      · exact absurd (h.enclosed [] ⟨rest, rfl⟩) (by decide)
      · exact absurd (h.nested [')'] ⟨rest, rfl⟩) (by decide)
    have count := depthAfter_add_count fun closing => first ⟨.inr closing.1, closing.2⟩
    refine ⟨first, fun front hf => ?_, ?_, fun front hf => ?_⟩
    · have nested := h.nested (c :: front) (List.cons_prefix_cons.2 ⟨rfl, hf⟩)
      have shifted := count front
      omega
    · have closed := h.closed
      have shifted := count rest
      omega
    · have enclosed := h.enclosed (c :: front) (List.cons_prefix_cons.2 ⟨rfl, hf⟩)
      have shifted := count front
      omega
  · rintro ⟨first, h⟩
    have count := depthAfter_add_count fun closing => first ⟨.inr closing.1, closing.2⟩
    refine ⟨fun front hf => ?_, ?_, fun front hf => ?_⟩
    · cases front with
      | nil => exact Nat.zero_le _
      | cons d front =>
        obtain ⟨rfl, within⟩ := List.cons_prefix_cons.1 hf
        have nested := h.nested front within
        have shifted := count front
        omega
    · have closed := h.closed
      have shifted := count rest
      omega
    · cases front with
      | nil =>
        obtain ⟨rfl, -⟩ := List.cons_prefix_cons.1 hf
        have positive : depth ≠ 0 := fun zero => first ⟨.inl rfl, zero⟩
        simpa using Nat.pos_of_ne_zero positive
      | cons d front =>
        obtain ⟨rfl, within⟩ := List.cons_prefix_cons.1 hf
        have enclosed := h.enclosed front within
        have shifted := count front
        omega

/-- Following the depth through a text tells whether it is balanced. -/
theorem closedFrom_iff {depth : Nat} {s : Text} : closedFrom depth s = true ↔ Balanced depth s := by
  induction s generalizing depth with
  | nil => simp [closedFrom, balanced_nil_iff]
  | cons c rest ih =>
    rw [closedFrom, Bool.and_eq_true, balanced_cons_iff, ← ih]
    simp [or_iff_not_imp_left]

instance (depth : Nat) (s : Text) : Decidable (Balanced depth s) :=
  decidable_of_iff _ closedFrom_iff

/-! ## Stretches between cuts -/

/-- A text is not cut at all, or first behind a stretch that ends at depth zero. -/
theorem cutsFrom_cases (depth : Nat) (s : Text) :
    cutsFrom depth s = [s] ∨
      ∃ first rest, s = first ++ ',' :: rest ∧ first.foldl depthAfter depth = 0 ∧
        cutsFrom depth first = [first] ∧ cutsFrom depth s = first :: cutsFrom 0 rest := by
  -- By induction on the text at all depths, as the depth changes until the first cut.
  induction s generalizing depth with
  | nil => exact .inl rfl
  | cons c rest ih =>
    by_cases here : c = ',' ∧ depth = 0
    · obtain ⟨rfl, rfl⟩ := here
      exact .inr ⟨[], rest, rfl, rfl, rfl, if_pos ⟨rfl, rfl⟩⟩
    · have later : ∀ t, cutsFrom depth (c :: t) =
          (cutsFrom (depthAfter depth c) t).modifyHead (c :: ·) := fun t => if_neg here
      rcases ih (depthAfter depth c) with whole | ⟨first, back, rfl, zero, alone, cut⟩
      · exact .inl (by rw [later, whole]; rfl)
      · exact .inr ⟨c :: first, back, rfl, zero, by rw [later, alone]; rfl,
          by rw [later, cut]; rfl⟩

/-- What holds of every text that is not cut, and of a stretch and a comma before a text when it
holds of that text, holds of all texts. -/
theorem cuts_induction {motive : Text → Prop}
    (uncut : ∀ s, cutsFrom 0 s = [s] → motive s)
    (cut : ∀ first rest, first.foldl depthAfter 0 = 0 → cutsFrom 0 first = [first] →
      cutsFrom 0 (first ++ ',' :: rest) = first :: cutsFrom 0 rest → motive rest →
      motive (first ++ ',' :: rest)) (s : Text) : motive s := by
  rcases cutsFrom_cases 0 s with whole | ⟨first, rest, whole, zero, alone, cuts⟩
  · exact uncut s whole
  · rw [whole] at cuts ⊢
    exact cut first rest zero alone cuts (cuts_induction uncut cut rest)
termination_by s.length
decreasing_by
  rw [whole, List.length_append, List.length_cons]
  omega

/-- No stretch between cuts is cut on its own. -/
theorem cutsFrom_of_mem_cutsFrom {s stretch : Text} (h : stretch ∈ cutsFrom 0 s) :
    cutsFrom 0 stretch = [stretch] := by
  induction s using cuts_induction with
  | uncut s whole =>
    rw [whole, List.mem_singleton] at h
    rwa [h]
  | cut first rest _ alone cuts ih =>
    rw [cuts, List.mem_cons] at h
    rcases h with rfl | h
    · exact alone
    · exact ih h

/-- A term is a term of its own. -/
theorem terms_of_mem_terms {s term : Text} (h : term ∈ terms s) : terms term = [term] := by
  obtain ⟨ne, stretch, mem, rfl⟩ := mem_nonblank.1 h
  rw [terms_trim, terms, cutsFrom_of_mem_cutsFrom mem]
  simp [nonblank, ne]

/-! ## Terms in their places -/

/-- The pieces stand in order in a text that starts at the given depth. Each starts at depth zero
and, blanks apart, ends at a comma or where the text ends. All other characters are blanks and
commas at depth zero. -/
inductive Laid : Nat → Text → List Text → Prop where
  /-- Nothing is left. -/
  | nil {depth : Nat} : Laid depth [] []
  /-- A blank outside the pieces. -/
  | blank {depth : Nat} {c : Char} {rest : Text} {pieces : List Text} :
      isBlank c = true → Laid (depthAfter depth c) rest pieces → Laid depth (c :: rest) pieces
  /-- A comma outside the pieces. -/
  | comma {rest : Text} {pieces : List Text} : Laid 0 rest pieces → Laid 0 (',' :: rest) pieces
  /-- The next piece. -/
  | piece {piece rest : Text} {pieces : List Text} : (∀ c ∈ (trimStart rest).head?, c = ',') →
      Laid (piece.foldl depthAfter 0) rest pieces → Laid 0 (piece ++ rest) (piece :: pieces)

/-- No blank is a parenthesis. -/
theorem depthAfter_of_isBlank {c : Char} (depth : Nat) (h : isBlank c = true) :
    depthAfter depth c = depth := by
  have opening : c ≠ '(' := by rintro rfl; cases h
  have closing : c ≠ ')' := by rintro rfl; cases h
  rw [depthAfter, if_neg opening, if_neg closing]

theorem foldl_depthAfter_of_blank {s : Text} (depth : Nat) (h : Blank s) :
    s.foldl depthAfter depth = depth := by
  induction s with
  | nil => rfl
  | cons c rest ih =>
    rw [List.foldl_cons, depthAfter_of_isBlank depth (h c List.mem_cons_self)]
    exact ih fun d hd => h d (List.mem_cons_of_mem c hd)

theorem Laid.append_of_blank {depth : Nat} {before s : Text} {pieces : List Text} (h : Blank before)
    (laid : Laid depth s pieces) : Laid depth (before ++ s) pieces := by
  induction before with
  | nil => exact laid
  | cons c rest ih =>
    have first := h c List.mem_cons_self
    refine .blank first ?_
    rw [depthAfter_of_isBlank depth first]
    exact ih fun d hd => h d (List.mem_cons_of_mem c hd)

/-- A stretch that starts at depth zero adds what trimming leaves of it. -/
theorem Laid.append_stretch {s rest : Text} {pieces : List Text} (ends : ∀ c ∈ rest.head?, c = ',')
    (laid : Laid (s.foldl depthAfter 0) rest pieces) :
    Laid 0 (s ++ rest) (nonblank [s] ++ pieces) := by
  obtain ⟨before, after, whole, blankBefore, blankAfter⟩ := exists_eq_append_trim s
  by_cases empty : trim s = []
  · have blank := trim_eq_nil_iff.1 empty
    have none : nonblank [s] = [] := by simp [nonblank, empty]
    rw [foldl_depthAfter_of_blank 0 blank] at laid
    rw [none, List.nil_append]
    exact laid.append_of_blank blank
  · have one : nonblank [s] = [trim s] := by simp [nonblank, empty]
    rw [one]
    -- The blanks at both ends change no depth, so what is behind the piece is laid from its depth.
    generalize trim s = core at whole
    subst whole
    rw [List.foldl_append, List.foldl_append, foldl_depthAfter_of_blank 0 blankBefore,
      foldl_depthAfter_of_blank _ blankAfter] at laid
    have behind : trimStart (after ++ rest) = rest :=
      trimStart_append_of_head blankAfter fun c hc => ends c hc ▸ rfl
    rw [List.append_assoc, List.append_assoc]
    refine .append_of_blank blankBefore (.piece ?_ (laid.append_of_blank blankAfter))
    rwa [behind]

theorem laid_terms (s : Text) : Laid 0 s (terms s) := by
  induction s using cuts_induction with
  | uncut s whole =>
    have last : Laid 0 (s ++ []) (nonblank [s] ++ []) := .append_stretch nofun .nil
    rwa [List.append_nil, List.append_nil, ← whole] at last
  | cut first rest zero _ cuts ih =>
    have split : terms (first ++ ',' :: rest) = nonblank [first] ++ terms rest := by
      rw [terms, cuts, ← List.singleton_append, nonblank_append, terms]
    rw [split]
    refine .append_stretch (fun c hc => (Option.some.inj hc).symm) ?_
    rw [zero]
    exact .comma ih

/-- Cutting gives back the texts that were joined, and of every text, balanced or not, the terms
are trimmed, not empty and cut no further, and account for the whole but blanks and commas at depth
zero. -/
theorem terms_exact :
    (∀ texts pieces : List Text, (∀ s ∈ texts, IsTrimmed s ∧ s ≠ [] ∧ Balanced 0 s) →
      Spread texts pieces → terms ([','].intercalate pieces) = texts) ∧
    ∀ s : Text, (∀ term ∈ terms s, term ≠ [] ∧ IsTrimmed term ∧ terms term = [term]) ∧
      Laid 0 s (terms s) := by
  refine ⟨fun texts pieces regular spread => ?_, fun s => ⟨fun term mem => ?_, laid_terms s⟩⟩
  · refine spread.terms_eq fun s hs => ?_
    obtain ⟨trimmed, ne, balanced⟩ := regular s hs
    exact ⟨trimmed, ne, closedFrom_iff.2 balanced⟩
  · obtain ⟨trimmed, ne⟩ := isTrimmed_of_mem_nonblank mem
    exact ⟨ne, trimmed, terms_of_mem_terms mem⟩

/-- A piece with a comma of its own and a blank one behind it, and a text that closes what it has
not opened and opens what it never closes. -/
theorem terms_exact_unbalanced :
    let texts : List Text := ["f(a,b)", "c"]
    let s : Text := " x),y(,z) ,, w(, "
    terms " f(a,b) , ,c" = texts ∧ terms s = ["x)", "y(,z)", "w(,"] ∧
      terms "w(," = ["w(,".toList] ∧ Laid 0 s ["x)", "y(,z)", "w(,"] := by
  intro texts s
  obtain ⟨joined, cut⟩ := terms_exact
  have spread : Spread texts [" f(a,b) ", " ", "c"] :=
    .text ⟨" ", " ", by decide, by decide, by decide⟩ <|
      .blank (by decide) <| .text ⟨"", "", by decide, by decide, by decide⟩ .nil
  have terms : terms s = ["x)", "y(,z)", "w(,"] := by decide
  obtain ⟨stable, laid⟩ := cut s
  rw [terms] at stable laid
  obtain ⟨-, -, alone⟩ := stable "w(," (by simp)
  exact ⟨joined texts _ (by decide) spread, terms, alone, laid⟩

end Text

end FilterSql
