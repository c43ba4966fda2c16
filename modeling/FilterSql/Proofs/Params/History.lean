/-
# FilterSql.Proofs.Params.History -- parameters are what their history makes of them

A parameter set starts empty or with a list of pairs and grows by single values and by lists of
pairs. In whatever steps it came about, it is the grouping of all the pairs that arrived, in the
order of their arrival (`params_eq_ofPairs`), and every reader can be told from that list alone.

So nothing depends on the steps. And a parameter set is made again from its own pairs, listed key by
key, although they need not have arrived in that order.
-/

import Mathlib.Data.Finset.Card
import Mathlib.Data.List.Basic
import FilterSql.Proofs.Params.Grouping

namespace FilterSql

namespace Params

/-! ## Histories -/

/-- The ways in which a parameter set comes about. -/
inductive History where
  /-- There are no parameters. -/
  | new
  /-- One value is added. -/
  | push (before : History) (key value : Text)
  /-- Values are added one after the other. -/
  | extend (before : History) (more : List (Text × Text))
  /-- A list of pairs is collected. -/
  | collect (all : List (Text × Text))

namespace History

/-- The parameters at the end of a history. -/
def params : History → Params
  | new => empty
  | push before key value => before.params.push key value
  | extend before more => before.params.extend more
  | collect all => ofPairs all

/-- The pairs that arrived, in the order of their arrival. -/
def pairs : History → List (Text × Text)
  | new => []
  | push before key value => before.pairs ++ [(key, value)]
  | extend before more => before.pairs ++ more
  | collect all => all

/-- The steps of a history do not count. -/
theorem params_eq_ofPairs (h : History) : h.params = ofPairs h.pairs := by
  induction h with
  | new => rfl
  | push before key value ih =>
    rw [params, pairs, ih, ← extend_ofPairs]
    rfl
  | extend before more ih => rw [params, pairs, ih, extend_ofPairs]
  | collect all => rfl

end History

/-! ## First arrivals -/

/-- Elements as they first occur in a list. -/
structure FirstArrivals {α : Type} [BEq α] (firsts all : List α) : Prop where
  /-- None of them stands twice. -/
  once : firsts.Nodup
  /-- They are the elements of the list. -/
  mem_iff : ∀ a, a ∈ firsts ↔ a ∈ all
  /-- They stand in the order in which each first occurs. -/
  ordered : firsts.Pairwise fun a b => all.idxOf a < all.idxOf b

/-- Listing every element once, by its first occurrence. -/
theorem firstArrivals_eraseDups {α : Type} [BEq α] [LawfulBEq α] (all : List α) :
    FirstArrivals all.eraseDups all := by
  have ordered : all.eraseDups.Pairwise fun a b => all.idxOf a < all.idxOf b := by
    induction all using List.reverseRecOn with
    | nil => exact List.Pairwise.nil
    | append_singleton all last ih =>
      have kept : ∀ a ∈ all, (all ++ [last]).idxOf a = all.idxOf a := fun a ha =>
        List.idxOf_append_of_mem ha
      have earlier : all.eraseDups.Pairwise fun a b =>
          (all ++ [last]).idxOf a < (all ++ [last]).idxOf b := by
        refine List.Pairwise.imp_of_mem (fun {a b} ha hb before => ?_) ih
        rwa [kept a (List.mem_eraseDups.1 ha), kept b (List.mem_eraseDups.1 hb)]
      rw [eraseDups_concat]
      split
      · exact earlier
      · next absent =>
        -- A new element first occurs behind all others.
        rw [List.pairwise_append]
        refine ⟨earlier, List.pairwise_singleton _ _, fun a ha b hb => ?_⟩
        have mem := List.mem_eraseDups.1 ha
        rw [List.mem_singleton.1 hb, kept a mem, List.idxOf_append_of_notMem absent]
        have within := List.idxOf_lt_length_of_mem mem
        omega
  refine ⟨List.Pairwise.imp (fun {a b} before same => ?_) ordered, fun a => List.mem_eraseDups,
    ordered⟩
  rw [same] at before
  exact lt_irrefl _ before

/-! ## Parameters made again from their pairs -/

/-- A value is put where it belongs behind the entries of other keys. -/
theorem insertValue_append {key value : Text} {front back : List (Text × List Text)}
    (absent : key ∉ front.map Prod.fst) :
    insertValue key value (front ++ back) = front ++ insertValue key value back := by
  induction front with
  | nil => rfl
  | cons entry front ih =>
    obtain ⟨k, values⟩ := entry
    rw [List.map_cons, List.mem_cons, not_or] at absent
    rw [List.cons_append, insertValue, if_neg fun same => absent.1 same.symm, ih absent.2,
      List.cons_append]

/-- The values of a new key make one more entry. -/
theorem entries_extend_values {p : Params} {key : Text} {values : List Text} (ne : values ≠ [])
    (absent : key ∉ p.entries.map Prod.fst) :
    (p.extend (values.map (Prod.mk key))).entries = p.entries ++ [(key, values)] := by
  induction values using List.reverseRecOn with
  | nil => exact absurd rfl ne
  | append_singleton values value ih =>
    have step : (p.extend ((values ++ [value]).map (Prod.mk key))).entries =
        insertValue key value (p.extend (values.map (Prod.mk key))).entries := by
      rw [List.map_append, extend_append]
      rfl
    rw [step]
    by_cases first : values = []
    · have whole : insertValue key value (p.entries ++ []) = _ := insertValue_append absent
      rw [List.append_nil] at whole
      rw [first]
      exact whole
    · rw [ih first, insertValue_append absent, insertValue, if_pos rfl]

/-- Parameters are what their pairs make, listed key by key. -/
theorem ofPairs_pairs_eq (p : Params) : ofPairs p.pairs = p := by
  have entries : ∀ entries : List (Text × List Text), (entries.map Prod.fst).Nodup →
      (∀ entry ∈ entries, entry.2 ≠ []) →
      (ofPairs (entries.flatMap fun entry => entry.2.map (Prod.mk entry.1))).entries =
        entries := by
    intro entries distinct given
    induction entries using List.reverseRecOn with
    | nil => rfl
    | append_singleton entries entry ih =>
      rw [List.map_append, List.nodup_append] at distinct
      have before := ih distinct.1 fun e he => given e (List.mem_append_left _ he)
      rw [List.flatMap_append, List.flatMap_singleton, ← extend_ofPairs]
      refine (entries_extend_values (given entry (by simp)) fun mem => ?_).trans (by rw [before])
      rw [before] at mem
      exact distinct.2.2 _ mem _ (by simp) rfl
  have same := entries p.entries p.distinct p.given
  obtain ⟨_, _, _⟩ := p
  exact (Params.mk.injEq ..).mpr same

/-! ## What a history comes to -/

/-- The values that arrived with a key, in the order of their arrival. -/
def arrived (pairs : List (Text × Text)) (key : Text) : List Text :=
  (pairs.filter fun pair => pair.1 = key).map Prod.snd

/-- Parameters with the same keys in the same order and the same values are the same. -/
theorem eq_iff_keys_values {p p' : Params} :
    p = p' ↔ p.entries.map Prod.fst = p'.entries.map Prod.fst ∧
      ∀ key, p.values key = p'.values key := by
  constructor
  · rintro rfl
    exact ⟨rfl, fun _ => rfl⟩
  · rintro ⟨keys, values⟩
    have same : p.entries = p'.entries := by
      rw [entries_eq_map_values p, entries_eq_map_values p', keys]
      exact List.map_congr_left fun key _ => congrArg (Prod.mk key) (values key)
    cases p
    cases p'
    exact (Params.mk.injEq ..).mpr same

/-- A key arrived exactly when values arrived with it. -/
theorem arrived_ne_nil_iff {pairs : List (Text × Text)} {key : Text} :
    arrived pairs key ≠ [] ↔ key ∈ pairs.map Prod.fst := by
  simp [arrived]

/-- There are as many entries as there are different keys. -/
theorem size_ofPairs (pairs : List (Text × Text)) :
    (ofPairs pairs).size = (pairs.map Prod.fst).toFinset.card := by
  have firsts := firstArrivals_eraseDups (pairs.map Prod.fst)
  have same : (pairs.map Prod.fst).toFinset = (pairs.map Prod.fst).eraseDups.toFinset := by
    ext key
    rw [List.mem_toFinset, List.mem_toFinset, firsts.mem_iff]
  rw [same, List.toFinset_card_of_nodup firsts.once, ← keys_ofPairs, List.length_map, size]

/-- Parameters are empty when no pair arrived. -/
theorem isEmpty_ofPairs_iff {pairs : List (Text × Text)} :
    (ofPairs pairs).isEmpty = true ↔ pairs = [] := by
  rw [isEmpty, List.isEmpty_iff, entries_ofPairs, List.map_eq_nil_iff]
  constructor
  · intro none
    rw [← List.map_eq_nil_iff (f := Prod.fst), List.eq_nil_iff_forall_not_mem]
    intro key mem
    rw [← List.mem_eraseDups, none] at mem
    cases mem
  · rintro rfl
    rfl

/-- Whatever its steps, a history comes to the grouping of the pairs that arrived: each key once, by
its first arrival, with all of its values in the order of their arrival. All readers agree with
that. Collecting two lists is collecting the first and adding the second; the pairs of a parameter
set, listed key by key, make it again; and two histories come to the same exactly when their keys
first arrive in the same order and with each key the same values do. -/
theorem History.groups (h : History) :
    let keys := h.pairs.map Prod.fst
    (h.params.entries = keys.eraseDups.map (fun key => (key, arrived h.pairs key)) ∧
        FirstArrivals keys.eraseDups keys ∧ ∀ entry ∈ h.params.entries, entry.2 ≠ []) ∧
      (∀ key, h.params.values key = arrived h.pairs key ∧
        h.params.last? key = (arrived h.pairs key).getLast? ∧
        (h.params.contains key = true ↔ key ∈ keys)) ∧
      (h.params.size = keys.toFinset.card ∧ (h.params.isEmpty = true ↔ h.pairs = [])) ∧
      (∀ more, ofPairs (h.pairs ++ more) = h.params.extend more) ∧
      ofPairs h.params.pairs = h.params ∧
      ∀ h' : History, h.params = h'.params ↔
        keys.eraseDups = (h'.pairs.map Prod.fst).eraseDups ∧
          ∀ key, arrived h.pairs key = arrived h'.pairs key := by
  intro keys
  rw [h.params_eq_ofPairs]
  refine ⟨⟨entries_ofPairs h.pairs, firstArrivals_eraseDups keys, ?_⟩, fun key => ?_,
    ⟨size_ofPairs h.pairs, isEmpty_ofPairs_iff⟩, fun more => (extend_ofPairs h.pairs more).symm,
    ofPairs_pairs_eq _, fun h' => ?_⟩
  · rw [entries_ofPairs]
    intro entry mem
    obtain ⟨key, hk, rfl⟩ := List.mem_map.1 mem
    exact arrived_ne_nil_iff.2 (List.mem_eraseDups.1 hk)
  · have values : (ofPairs h.pairs).values key = arrived h.pairs key := values_ofPairs h.pairs key
    refine ⟨values, congrArg List.getLast? values, ?_⟩
    rw [contains_eq_true_iff, values]
    exact arrived_ne_nil_iff
  · rw [h'.params_eq_ofPairs, eq_iff_keys_values, keys_ofPairs, keys_ofPairs]
    simp only [values_ofPairs]
    rfl

/-- Pairs in another order come to the same when no key overtakes another one for the first time. -/
example :
    (History.extend (.push .new "a" "eq.1") [("b", "eq.2"), ("a", "eq.3")]).params =
      (History.push (.collect [("a", "eq.1"), ("a", "eq.3")]) "b" "eq.2").params := by
  decide

end Params

end FilterSql
