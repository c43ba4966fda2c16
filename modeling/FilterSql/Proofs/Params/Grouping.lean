/-
# FilterSql.Proofs.Params.Grouping -- pairs grouped by key

Parameters arrive pair by pair and are kept key by key. Of each key nothing is lost: its values are
the values that arrived with it, in the order of their arrival (`values_ofPairs`), and the keys
stand in the order in which each first arrived (`entries_ofPairs`). Between the keys of a class
nothing else counts than the pairs of that class (`filter_entries_ofPairs`). And pairs that arrived
with all values of a key next to each other are listed again exactly as they arrived
(`pairs_ofPairs`).
-/

import Mathlib.Data.List.Induction
import Mathlib.Data.List.Nodup
import FilterSql.Params

namespace FilterSql

/-! ## Lists in which equal elements stand together -/

/-- Equal elements stand next to each other. -/
def Contiguous {α : Type} : List α → Prop
  | [] => True
  | a :: rest => (a ∈ rest → rest.head? = some a) ∧ Contiguous rest

namespace Contiguous

variable {α β : Type}

/-- Contiguity is checked element by element. -/
def decidable [DecidableEq α] : (l : List α) → Decidable (Contiguous l)
  | [] => isTrue trivial
  | a :: rest =>
    have := decidable rest
    inferInstanceAs (Decidable ((a ∈ rest → rest.head? = some a) ∧ Contiguous rest))

instance [DecidableEq α] : DecidablePred (Contiguous : List α → Prop) := decidable

/-- The end of a contiguous list is contiguous. -/
theorem of_append_right {front back : List α} (h : Contiguous (front ++ back)) :
    Contiguous back := by
  induction front with
  | nil => exact h
  | cons a rest ih => exact ih h.2

/-- So is its front. -/
theorem of_append_left {front back : List α} (h : Contiguous (front ++ back)) :
    Contiguous front := by
  induction front with
  | nil => trivial
  | cons a rest ih =>
    refine ⟨fun mem => ?_, ih h.2⟩
    have next := h.1 (List.mem_append_left back mem)
    cases rest with
    | nil => cases mem
    | cons b rest => exact next

/-- Between two equal elements nothing else stands. -/
theorem eq_of_mem_between {a : α} {between : List α} (h : Contiguous (a :: (between ++ [a]))) :
    ∀ b ∈ between, b = a := by
  induction between with
  | nil => simp
  | cons first rest ih =>
    have next : first = a := by simpa using h.1 (by simp)
    subst next
    intro b hb
    rcases List.mem_cons.1 hb with rfl | hb
    · rfl
    · exact ih h.2 b hb

/-- What tells elements apart keeps a list contiguous. -/
theorem map {f : α → β} (injective : ∀ a b, f a = f b → a = b) {l : List α} (h : Contiguous l) :
    Contiguous (l.map f) := by
  induction l with
  | nil => trivial
  | cons a rest ih =>
    refine ⟨fun mem => ?_, ih h.2⟩
    obtain ⟨b, hb, same⟩ := List.mem_map.1 mem
    rw [injective b a same] at hb
    rw [List.head?_map, h.1 hb]
    rfl

end Contiguous

/-! ## Lists without repetitions and without silent elements -/

/-- The last element of a list is listed anew unless it stood there before. -/
theorem eraseDups_concat {α : Type} [BEq α] [LawfulBEq α] (l : List α) (a : α) :
    (l ++ [a]).eraseDups = if a ∈ l then l.eraseDups else l.eraseDups ++ [a] := by
  rw [List.eraseDups_append]
  split
  · next there => simp [List.removeAll, there]
  · next absent => simp [List.removeAll, absent, List.eraseDups_cons]

/-- Elements of which nothing is made may be dropped. -/
theorem flatMap_filter_of_forall {α β : Type} {keep : α → Bool} {f : α → List β} {l : List α}
    (h : ∀ a ∈ l, keep a = false → f a = []) : (l.filter keep).flatMap f = l.flatMap f := by
  induction l with
  | nil => rfl
  | cons a rest ih =>
    rw [List.forall_mem_cons] at h
    cases kept : keep a with
    | true => rw [List.filter_cons_of_pos kept, List.flatMap_cons, List.flatMap_cons, ih h.2]
    | false =>
      rw [List.filter_cons_of_neg (by simp [kept]), List.flatMap_cons, h.1 kept, ih h.2,
        List.nil_append]

namespace Params

/-! ## Values of a key -/

theorem values_push (p : Params) (key value other : Text) :
    (p.push key value).values other =
      if key = other then p.values other ++ [value] else p.values other := by
  unfold values push
  dsimp only
  induction p.entries with
  | nil => by_cases same : key = other <;> simp [insertValue, same]
  | cons entry rest ih =>
    obtain ⟨k, held⟩ := entry
    by_cases here : k = key
    · subst here
      rw [insertValue, if_pos rfl]
      by_cases same : k = other <;> simp [same]
    · rw [insertValue, if_neg here]
      by_cases same : k = other
      · have different : key ≠ other := fun h => here (same.trans h.symm)
        simp [same, different]
      · rw [List.find?_cons_of_neg (by simpa using same),
          List.find?_cons_of_neg (by simpa using same)]
        exact ih

theorem values_extend (p : Params) (pairs : List (Text × Text)) (key : Text) :
    (p.extend pairs).values key =
      p.values key ++ (pairs.filter fun pair => pair.1 = key).map Prod.snd := by
  induction pairs generalizing p with
  | nil => simp [extend]
  | cons pair rest ih =>
    have step : p.extend (pair :: rest) = (p.push pair.1 pair.2).extend rest := rfl
    rw [step, ih, values_push]
    by_cases same : pair.1 = key <;> simp [same]

/-- The values of a key are those that arrived with it, in the order of their arrival. -/
theorem values_ofPairs (pairs : List (Text × Text)) (key : Text) :
    (ofPairs pairs).values key = (pairs.filter fun pair => pair.1 = key).map Prod.snd := by
  rw [ofPairs, values_extend]
  rfl

/-- A key arrived when it has a value. -/
theorem contains_eq_true_iff {p : Params} {key : Text} :
    p.contains key = true ↔ p.values key ≠ [] := by
  unfold contains values
  rw [List.any_eq_true]
  constructor
  · rintro ⟨entry, mem, same⟩
    cases found : p.entries.find? fun entry => entry.1 = key with
    | none => exact absurd same (List.find?_eq_none.1 found entry mem)
    | some first => exact p.given first (List.mem_of_find?_eq_some found)
  · intro given
    cases found : p.entries.find? fun entry => entry.1 = key with
    | none =>
      rw [found] at given
      exact absurd rfl given
    | some first =>
      have same := List.find?_some found
      exact ⟨first, List.mem_of_find?_eq_some found, same⟩

/-! ## Keys in the order of their first arrival -/

/-- An entry holds the values of its key. -/
theorem values_of_mem {p : Params} {entry : Text × List Text} (mem : entry ∈ p.entries) :
    p.values entry.1 = entry.2 := by
  unfold values
  cases found : p.entries.find? fun other => other.1 = entry.1 with
  | none => exact absurd (decide_eq_true rfl) (List.find?_eq_none.1 found entry mem)
  | some first =>
    have same := List.find?_some found
    have first_mem := List.mem_of_find?_eq_some found
    exact congrArg Prod.snd
      (List.inj_on_of_nodup_map p.distinct first_mem mem (of_decide_eq_true same))

/-- Parameters are their keys, each with its values. -/
theorem entries_eq_map_values (p : Params) :
    p.entries = (p.entries.map Prod.fst).map fun key => (key, p.values key) := by
  have each : ∀ entry ∈ p.entries, (entry.1, p.values entry.1) = entry := fun entry mem =>
    congrArg (Prod.mk entry.1) (values_of_mem mem)
  rw [List.map_map]
  exact ((List.map_congr_left each).trans (List.map_id _)).symm

/-- The keys stand in the order in which each first arrived. -/
theorem keys_ofPairs (pairs : List (Text × Text)) :
    (ofPairs pairs).entries.map Prod.fst = (pairs.map Prod.fst).eraseDups := by
  induction pairs using List.reverseRecOn with
  | nil => rfl
  | append_singleton pairs pair ih =>
    have step : ofPairs (pairs ++ [pair]) = (ofPairs pairs).push pair.1 pair.2 := by
      rw [← extend_ofPairs]
      rfl
    rw [step, push, keys_insertValue, ih, List.map_append, List.map_singleton, eraseDups_concat]
    simp only [List.mem_eraseDups]

/-- Parameters are the keys in the order in which each first arrived, and with each the values in
the order of their arrival. -/
theorem entries_ofPairs (pairs : List (Text × Text)) :
    (ofPairs pairs).entries = (pairs.map Prod.fst).eraseDups.map fun key =>
      (key, (pairs.filter fun pair => pair.1 = key).map Prod.snd) := by
  rw [entries_eq_map_values, keys_ofPairs]
  simp only [values_ofPairs]

/-! ## Keys of a class -/

/-- One more value is seen among the entries of a class when its key belongs to the class. -/
theorem filter_insertValue (keep : Text → Bool) (key value : Text)
    (entries : List (Text × List Text)) :
    (insertValue key value entries).filter (fun entry => keep entry.1) =
      if keep key then insertValue key value (entries.filter fun entry => keep entry.1)
      else entries.filter fun entry => keep entry.1 := by
  induction entries with
  | nil => cases kept : keep key <;> simp [insertValue, kept]
  | cons entry rest ih =>
    obtain ⟨k, values⟩ := entry
    by_cases here : k = key
    · subst here
      cases kept : keep k <;> simp [insertValue, kept]
    · rw [insertValue, if_neg here, List.filter_cons, List.filter_cons, ih]
      cases keep k <;> cases keep key <;> simp [insertValue, here]

theorem filter_entries_extend (keep : Text → Bool) {p p' : Params}
    (h : p.entries.filter (fun entry => keep entry.1) = p'.entries) (pairs : List (Text × Text)) :
    (p.extend pairs).entries.filter (fun entry => keep entry.1) =
      (p'.extend (pairs.filter fun pair => keep pair.1)).entries := by
  induction pairs generalizing p p' with
  | nil => exact h
  | cons pair rest ih =>
    have pushed : (p.push pair.1 pair.2).entries.filter (fun entry => keep entry.1) =
        if keep pair.1 then (p'.push pair.1 pair.2).entries else p'.entries := by
      rw [push, filter_insertValue, h]
      rfl
    cases kept : keep pair.1 with
    | true =>
      rw [kept, if_pos rfl] at pushed
      rw [List.filter_cons_of_pos (by simpa using kept)]
      exact ih pushed
    | false =>
      rw [kept, if_neg Bool.false_ne_true] at pushed
      rw [List.filter_cons_of_neg (by simp [kept])]
      exact ih pushed

/-- The entries of a class of keys are what the pairs of that class alone would give. -/
theorem filter_entries_ofPairs (keep : Text → Bool) (pairs : List (Text × Text)) :
    (ofPairs pairs).entries.filter (fun entry => keep entry.1) =
      (ofPairs (pairs.filter fun pair => keep pair.1)).entries :=
  filter_entries_extend keep rfl pairs

/-! ## One more pair -/

section Insert

variable {α : Type} {before after : List (Text × Text)} {key value : Text}

theorem values_insert_of_ne {other : Text} (h : other ≠ key) :
    (ofPairs (before ++ (key, value) :: after)).values other =
      (ofPairs (before ++ after)).values other := by
  rw [values_ofPairs, values_ofPairs, List.filter_append, List.filter_append,
    List.filter_cons_of_neg (by simpa using h.symm)]

/-- A value of which nothing is made does not show among the values of its key. -/
theorem flatMap_values_insert {f : Text → List α} {other : Text}
    (silent : other = key → f value = []) :
    ((ofPairs (before ++ (key, value) :: after)).values other).flatMap f =
      ((ofPairs (before ++ after)).values other).flatMap f := by
  by_cases same : other = key
  · rw [values_ofPairs, values_ofPairs, List.filter_append, List.filter_append,
      List.filter_cons_of_pos (by simpa using same.symm)]
    simp [silent same]
  · rw [values_insert_of_ne same]

/-- A pair whose key arrived before leaves the order of the keys as it was. -/
theorem keys_insert_of_mem (h : key ∈ before.map Prod.fst) :
    (ofPairs (before ++ (key, value) :: after)).entries.map Prod.fst =
      (ofPairs (before ++ after)).entries.map Prod.fst := by
  simp only [keys_ofPairs, List.map_append, List.map_cons, List.eraseDups_append,
    List.cons_removeAll]
  simp [h]

/-- What is made of every entry is made of every key and its values. -/
theorem flatMap_entries_eq_keys (p : Params) (f : Text → Text → List α) :
    (p.entries.flatMap fun entry => entry.2.flatMap (f entry.1)) =
      (p.entries.map Prod.fst).flatMap fun k => (p.values k).flatMap (f k) := by
  rw [List.flatMap_map]
  exact List.flatMap_congr fun entry mem => by rw [values_of_mem mem]

/-- A key of which nothing is made may be dropped. -/
theorem flatMap_entries_eq_filter {p : Params} {f : Text → Text → List α}
    (silent : (p.values key).flatMap (f key) = []) :
    (p.entries.flatMap fun entry => entry.2.flatMap (f entry.1)) =
      (p.entries.filter fun entry => entry.1 ≠ key).flatMap fun entry =>
        entry.2.flatMap (f entry.1) := by
  refine (flatMap_filter_of_forall fun entry mem dropped => ?_).symm
  have same : entry.1 = key := by simpa using dropped
  rw [← values_of_mem mem, same, silent]

/-- A value of which nothing is made does not show among the entries when its key arrived before, or
when nothing is made of the other values of its key either. -/
theorem flatMap_entries_insert {f : Text → Text → List α} (silent : f key value = [])
    (placed : key ∈ before.map Prod.fst ∨
      ((ofPairs (before ++ after)).values key).flatMap (f key) = []) :
    ((ofPairs (before ++ (key, value) :: after)).entries.flatMap fun entry =>
        entry.2.flatMap (f entry.1)) =
      (ofPairs (before ++ after)).entries.flatMap fun entry => entry.2.flatMap (f entry.1) := by
  have made : ∀ k, ((ofPairs (before ++ (key, value) :: after)).values k).flatMap (f k) =
      ((ofPairs (before ++ after)).values k).flatMap (f k) := by
    intro k
    apply flatMap_values_insert
    rintro rfl
    exact silent
  rcases placed with there | nothing
  · rw [flatMap_entries_eq_keys, flatMap_entries_eq_keys, keys_insert_of_mem there]
    exact List.flatMap_congr fun k _ => made k
  · -- The key may be a new one, so the entries are compared without it.
    have others : (ofPairs (before ++ (key, value) :: after)).entries.filter
        (fun entry => entry.1 ≠ key) =
          (ofPairs (before ++ after)).entries.filter fun entry => entry.1 ≠ key := by
      rw [filter_entries_ofPairs (· ≠ key), filter_entries_ofPairs (· ≠ key)]
      simp
    rw [flatMap_entries_eq_filter ((made key).trans nothing), flatMap_entries_eq_filter nothing,
      others]

end Insert

/-! ## Pairs that arrive key by key -/

/-- A value that arrives next to the others of its key, or with a key of its own, is listed last. -/
theorem flatMap_insertValue {entries : List (Text × List Text)} {key value : Text}
    (distinct : (entries.map Prod.fst).Nodup) (given : ∀ entry ∈ entries, entry.2 ≠ [])
    (h : Contiguous ((entries.flatMap fun entry => entry.2.map fun _ => entry.1) ++ [key])) :
    (insertValue key value entries).flatMap (fun entry => entry.2.map fun v => (entry.1, v)) =
      (entries.flatMap fun entry => entry.2.map fun v => (entry.1, v)) ++ [(key, value)] := by
  induction entries with
  | nil => rfl
  | cons entry rest ih =>
    obtain ⟨k, values⟩ := entry
    rw [List.map_cons, List.nodup_cons] at distinct
    rw [List.flatMap_cons, List.append_assoc] at h
    by_cases here : k = key
    · subst here
      -- Between the values of this key and the new one no other key can stand.
      have last : rest = [] := by
        rw [List.eq_nil_iff_forall_not_mem]
        intro next mem
        have between : next.1 = k := by
          obtain ⟨first, others, rfl⟩ := List.exists_cons_of_ne_nil (given (k, values) (by simp))
          obtain ⟨held, _, filled⟩ :=
            List.exists_cons_of_ne_nil (given next (List.mem_cons_of_mem _ mem))
          rw [List.map_cons, List.cons_append, ← List.append_assoc] at h
          apply h.eq_of_mem_between
          apply List.mem_append_right
          exact List.mem_flatMap.2 ⟨next, mem, by simp [filled]⟩
        exact distinct.1 (List.mem_map.2 ⟨next, mem, between⟩)
      subst last
      simp [insertValue]
    · have others := ih distinct.2 (fun e he => given e (List.mem_cons_of_mem _ he))
        h.of_append_right
      rw [insertValue, if_neg here, List.flatMap_cons, List.flatMap_cons, others, List.append_assoc]

theorem pairs_push {p : Params} {key value : Text}
    (h : Contiguous (p.pairs.map Prod.fst ++ [key])) :
    (p.push key value).pairs = p.pairs ++ [(key, value)] := by
  apply flatMap_insertValue p.distinct p.given
  have keys : p.pairs.map Prod.fst =
      p.entries.flatMap fun entry => entry.2.map fun _ => entry.1 := by
    rw [pairs, List.map_flatMap]
    simp only [List.map_map]
    rfl
  rwa [keys] at h

theorem pairs_extend {p : Params} {pairs : List (Text × Text)}
    (h : Contiguous ((p.pairs ++ pairs).map Prod.fst)) :
    (p.extend pairs).pairs = p.pairs ++ pairs := by
  induction pairs generalizing p with
  | nil => simp [extend]
  | cons pair rest ih =>
    have split : p.pairs ++ pair :: rest = (p.pairs ++ [pair]) ++ rest := by simp
    rw [split] at h ⊢
    have first : (p.push pair.1 pair.2).pairs = p.pairs ++ [pair] := by
      apply pairs_push
      rw [List.map_append] at h
      simpa using h.of_append_left
    have others := @ih (p.push pair.1 pair.2)
    rw [first] at others
    exact others h

/-- Pairs that arrive with all values of a key next to each other are listed as they arrived. -/
theorem pairs_ofPairs {pairs : List (Text × Text)} (h : Contiguous (pairs.map Prod.fst)) :
    (ofPairs pairs).pairs = pairs :=
  pairs_extend h

/-- What is made of every value with its key can be read off the pairs. -/
theorem flatMap_entries {α : Type} (p : Params) (f : Text → Text → List α) :
    (p.entries.flatMap fun entry => entry.2.flatMap (f entry.1)) =
      p.pairs.flatMap fun pair => f pair.1 pair.2 := by
  rw [pairs, List.flatMap_assoc]
  simp only [List.flatMap_map]

end Params

end FilterSql
