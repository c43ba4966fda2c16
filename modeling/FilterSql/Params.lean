/-
# FilterSql.Params -- query parameters

An ordered multimap. Keys keep the order in which they first arrived, and every key keeps all of its
values in the order of their arrival; the values of one key stand together wherever they were given.
Two parameter sets are equal when they list the same keys in the same order with the same values.

No key stands twice, and none stands without a value: both are part of the type, because looking up
a key means finding its one entry.
-/

import FilterSql.Form

namespace FilterSql

namespace Params

/-! ## Entries -/

/-- The entries with one more value: behind the other values of its key, or in an entry of its own
behind all others. -/
def insertValue (key value : Text) : List (Text × List Text) → List (Text × List Text)
  | [] => [(key, [value])]
  | (k, values) :: rest =>
    if k = key then (k, values ++ [value]) :: rest
    else (k, values) :: insertValue key value rest

/-- A key that is there already stays in its place, and a new one comes last. -/
theorem keys_insertValue (key value : Text) (entries : List (Text × List Text)) :
    (insertValue key value entries).map Prod.fst =
      if key ∈ entries.map Prod.fst then entries.map Prod.fst
      else entries.map Prod.fst ++ [key] := by
  induction entries with
  | nil => simp [insertValue]
  | cons entry rest ih =>
    obtain ⟨k, values⟩ := entry
    by_cases here : k = key
    · simp [insertValue, here]
    · have other : ¬ key = k := fun h => here h.symm
      by_cases there : key ∈ rest.map Prod.fst
      · rw [if_pos there] at ih
        rw [insertValue, if_neg here, List.map_cons, ih, List.map_cons,
          if_pos (List.mem_cons_of_mem k there)]
      · rw [if_neg there] at ih
        have absent : key ∉ k :: rest.map Prod.fst := fun h =>
          (List.mem_cons.1 h).elim other there
        rw [insertValue, if_neg here, List.map_cons, ih, List.map_cons, if_neg absent]
        rfl

/-- One more value does not make a key stand twice. -/
theorem nodup_insertValue (key value : Text) {entries : List (Text × List Text)}
    (h : (entries.map Prod.fst).Nodup) : ((insertValue key value entries).map Prod.fst).Nodup := by
  rw [keys_insertValue]
  by_cases there : key ∈ entries.map Prod.fst
  · rwa [if_pos there]
  · rw [if_neg there, List.nodup_append]
    refine ⟨h, by simp, fun k hk k' hk' e => there ?_⟩
    rw [List.mem_singleton] at hk'
    rwa [← hk', ← e]

/-- One more value does not leave a key without a value. -/
theorem ne_nil_insertValue (key value : Text) {entries : List (Text × List Text)}
    (h : ∀ entry ∈ entries, entry.2 ≠ []) :
    ∀ entry ∈ insertValue key value entries, entry.2 ≠ [] := by
  induction entries with
  | nil => simp [insertValue]
  | cons first rest ih =>
    obtain ⟨k, values⟩ := first
    intro entry he
    unfold insertValue at he
    split at he
    · rcases List.mem_cons.1 he with rfl | he
      · simp
      · exact h entry (List.mem_cons_of_mem _ he)
    · rcases List.mem_cons.1 he with rfl | he
      · exact h _ (by simp)
      · exact ih (fun e m => h e (List.mem_cons_of_mem _ m)) entry he

end Params

/-! ## Parameter sets -/

/-- Query parameters, grouped by key. -/
structure Params where
  /-- Each key with the values given for it. -/
  entries : List (Text × List Text)
  /-- No key stands twice. -/
  distinct : (entries.map Prod.fst).Nodup
  /-- No key stands without a value. -/
  given : ∀ entry ∈ entries, entry.2 ≠ []
  deriving DecidableEq

namespace Params

/-- No parameters. -/
def empty : Params := ⟨[], by simp, by simp⟩

/-- Adds one value. -/
def push (p : Params) (key value : Text) : Params where
  entries := insertValue key value p.entries
  distinct := nodup_insertValue key value p.distinct
  given := ne_nil_insertValue key value p.given

/-- Adds values one after the other. -/
def extend (p : Params) (pairs : List (Text × Text)) : Params :=
  pairs.foldl (fun p pair => p.push pair.1 pair.2) p

/-- The parameters that a list of pairs gives. -/
def ofPairs (pairs : List (Text × Text)) : Params := empty.extend pairs

/-- The parameters of a URL query string. -/
def ofQueryString (s : Text) : Params := ofPairs (Form.pairs s)

/-- Every value with its key, key by key. -/
def pairs (p : Params) : List (Text × Text) :=
  p.entries.flatMap fun entry => entry.2.map fun value => (entry.1, value)

/-- All values of a key, none when the key never arrived. -/
def values (p : Params) (key : Text) : List Text :=
  match p.entries.find? fun entry => entry.1 = key with
  | some entry => entry.2
  | none => []

/-- The value of a key that arrived last. -/
def last? (p : Params) (key : Text) : Option Text := (p.values key).getLast?

/-- Did the key arrive, if only with an empty value? -/
def contains (p : Params) (key : Text) : Bool := p.entries.any fun entry => entry.1 = key

/-- The number of distinct keys. -/
def size (p : Params) : Nat := p.entries.length

/-- Are there no parameters? -/
def isEmpty (p : Params) : Bool := p.entries.isEmpty

/-! ## Adding in steps -/

theorem extend_append (p : Params) (first second : List (Text × Text)) :
    p.extend (first ++ second) = (p.extend first).extend second := by
  simp [extend, List.foldl_append]

theorem extend_ofPairs (first second : List (Text × Text)) :
    (ofPairs first).extend second = ofPairs (first ++ second) := by
  simp [ofPairs, extend_append]

end Params

end FilterSql
