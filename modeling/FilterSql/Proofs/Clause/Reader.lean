/-
# FilterSql.Proofs.Clause.Reader -- reading a clause with the precedences of SQL

A reader for conditions as SQL has them: `AND` binds tighter than `OR`, parentheses group to any
depth, and what is left is a comparison of a column. It knows the signs and words of SQL and nothing
of the code that writes clauses. Placeholders are filled first, from left to right, with one value
each, and neither a placeholder nor a value may be left over.

What is read keeps its parentheses, so that a group in parentheses is told from its members. The
fuel of a reader is a bound on the parts that it may read, and the number of tokens always suffices.
-/

import FilterSql.Proofs.Clause.Tokens

namespace FilterSql

namespace Clause

/-! ## Filling placeholders -/

namespace Token

/-- The token with its placeholder left open. -/
def blank : Token Text → Token Unit
  | name s => name s
  | word s => word s
  | sign s => sign s
  | dot => dot
  | comma => comma
  | opening => opening
  | closing => closing
  | value _ => value ()

/-- The value at the placeholder, if the token is one. -/
def values : Token Text → List Text
  | value v => [v]
  | _ => []

/-- The token with the next value at its placeholder, and the values that are left. -/
def fill? : Token Unit → List Text → Option (Token Text × List Text)
  | name s, values => some (name s, values)
  | word s, values => some (word s, values)
  | sign s, values => some (sign s, values)
  | dot, values => some (dot, values)
  | comma, values => some (comma, values)
  | opening, values => some (opening, values)
  | closing, values => some (closing, values)
  | value (), v :: values => some (value v, values)
  | value (), [] => none

theorem fill?_blank (t : Token Text) (later : List Text) :
    fill? t.blank (t.values ++ later) = some (t, later) := by
  cases t <;> rfl

end Token

/-- The tokens with the values at their placeholders, one for each. -/
def supply? : List (Token Unit) → List Text → Option (List (Token Text))
  | [], [] => some []
  | [], _ :: _ => none
  | t :: tokens, values =>
    (t.fill? values).bind fun filled => (supply? tokens filled.2).map (filled.1 :: ·)

/-- Tokens get back the values that were taken out of them. -/
theorem supply?_blank (tokens : List (Token Text)) :
    supply? (tokens.map Token.blank) (tokens.flatMap Token.values) = some tokens := by
  induction tokens with
  | nil => rfl
  | cons t rest ih =>
    rw [List.map_cons, List.flatMap_cons, supply?, Token.fill?_blank, Option.bind_some, ih]
    rfl

/-! ## Readers -/

/-- A reader takes what it reads off the front of the tokens. -/
abbrev Reader (α : Type) := List (Token Text) → Option (α × List (Token Text))

section Chains

variable {α : Type}

/-- One or more parts with a separator between neighbours. -/
def chain (separator : Token Text) (part : Reader α) : Nat → Reader (List α)
  | 0, _ => none
  | fuel + 1, tokens =>
    (part tokens).bind fun first =>
      match first.2 with
      | [] => some ([first.1], [])
      | t :: rest =>
        if t = separator then
          (chain separator part fuel rest).map fun others => (first.1 :: others.1, others.2)
        else some ([first.1], t :: rest)

/-- A chain with fuel for all tokens. -/
def chainOf (separator : Token Text) (part : Reader α) : Reader (List α) := fun tokens =>
  chain separator part (tokens.length + 1) tokens

/-- A part in front of something else than the separator is a chain. -/
theorem chain_part {separator : Token Text} {part : Reader α} {tokens rest : List (Token Text)}
    {a : α} {fuel : Nat} (read : part tokens = some (a, rest))
    (stop : rest.head? ≠ some separator) :
    chain separator part (fuel + 1) tokens = some ([a], rest) := by
  rw [chain, read, Option.bind_some]
  cases rest with
  | nil => rfl
  | cons t rest =>
    have other : ¬ t = separator := fun same => stop (congrArg some same)
    dsimp only
    rw [if_neg other]

/-- So is a part in front of the separator and a chain. -/
theorem chain_cons {separator : Token Text} {part : Reader α}
    {tokens others rest : List (Token Text)} {a : α} {more : List α} {fuel : Nat}
    (read : part tokens = some (a, separator :: others))
    (later : chain separator part fuel others = some (more, rest)) :
    chain separator part (fuel + 1) tokens = some (a :: more, rest) := by
  rw [chain, read, Option.bind_some]
  dsimp only
  rw [if_pos rfl, later]
  rfl

/-- Joined parts are read back, when each part is read back in front of what may follow it. -/
theorem chain_intercalate {β : Type} {separator : Token Text} {part : Reader α} {items : List β}
    {write : β → List (Token Text)} {view : β → α} {rest : List (Token Text)} {fuel : Nat}
    (ne : items ≠ []) (enough : items.length ≤ fuel) (stop : rest.head? ≠ some separator)
    (h : ∀ item ∈ items, ∀ later, later = rest ∨ later.head? = some separator →
      part (write item ++ later) = some (view item, later)) :
    chain separator part fuel ([separator].intercalate (items.map write) ++ rest) =
      some (items.map view, rest) := by
  -- Every part takes one unit of fuel. Behind it stands the separator, behind the last the rest.
  induction items generalizing fuel with
  | nil => exact absurd rfl ne
  | cons item others ih =>
    rw [List.length_cons] at enough
    obtain ⟨fuel, rfl⟩ : ∃ n, fuel = n + 1 := ⟨fuel - 1, by omega⟩
    by_cases last : others = []
    · rw [last, List.map_singleton, List.map_singleton, List.intercalate_singleton]
      exact chain_part (h item (by simp) rest (.inl rfl)) stop
    · have fewer : others.length ≤ fuel := by omega
      have later := ih last fewer fun i hi => h i (List.mem_cons_of_mem item hi)
      have first := h item (by simp)
        (separator :: ([separator].intercalate (others.map write) ++ rest)) (.inr rfl)
      rw [List.map_cons, List.map_cons, List.intercalate_cons_of_ne_nil (by simpa using last),
        List.append_assoc, List.append_assoc, List.singleton_append]
      exact chain_cons first later

/-- The fuel of `chainOf` suffices. -/
theorem chainOf_intercalate {β : Type} {separator : Token Text} {part : Reader α} {items : List β}
    {write : β → List (Token Text)} {view : β → α} {rest : List (Token Text)} (ne : items ≠ [])
    (stop : rest.head? ≠ some separator)
    (h : ∀ item ∈ items, ∀ later, later = rest ∨ later.head? = some separator →
      part (write item ++ later) = some (view item, later)) :
    chainOf separator part ([separator].intercalate (items.map write) ++ rest) =
      some (items.map view, rest) := by
  have parts := length_le_length_intercalate (List.cons_ne_nil separator []) (items.map write)
  rw [List.length_map] at parts
  apply chain_intercalate ne _ stop h
  rw [List.length_append]
  omega

end Chains

/-! ## Comparisons -/

/-- A quoted name. -/
def name : Reader Text
  | .name s :: rest => some (s, rest)
  | _ => none

/-- A value. -/
def value : Reader Text
  | .value v :: rest => some (v, rest)
  | _ => none

/-- A column: its names with the dots put back. -/
def column : Reader Text := fun tokens =>
  (chainOf .dot name tokens).map fun names => (['.'].intercalate names.1, names.2)

/-- The operator that a sign or a word between a column and one value stands for. -/
def operator? : Token Text → Option Operator
  | .sign s =>
    if s = "=" then some .eq
    else if s = "<>" then some .neq
    else if s = ">" then some .gt
    else if s = ">=" then some .gte
    else if s = "<" then some .lt
    else if s = "<=" then some .lte
    else none
  | .word s => if s = "LIKE" then some .like else if s = "ILIKE" then some .ilike else none
  | _ => none

/-- What follows the column of a comparison. -/
def comparisonOf (column : Text) : Reader Predicate
  | .word s :: .opening :: rest =>
    if s = "IN" then
      match chainOf .comma value rest with
      | some (values, .closing :: last) => some (⟨column, .isIn, .list values⟩, last)
      | _ => none
    else none
  | t :: .value v :: rest => (operator? t).map fun operator => (⟨column, operator, .single v⟩, rest)
  | _ => none

/-- What follows a column in lower case: a pattern in lower case. -/
def loweredOf (column : Text) : Reader Predicate
  | .closing :: .word s :: .word t :: .opening :: .value v :: .closing :: rest =>
    if s = "LIKE" ∧ t = "LOWER" then some (⟨column, .ilike, .single v⟩, rest) else none
  | _ => none

/-- A comparison. Letter case is ignored when both sides are in lower case. -/
def comparison : Reader Predicate
  | .word s :: .opening :: rest =>
    if s = "LOWER" then (column rest).bind fun found => loweredOf found.1 found.2 else none
  | tokens => (column tokens).bind fun found => comparisonOf found.1 found.2

/-! ## Conditions -/

/-- A condition as it is read. -/
inductive Formula where
  /-- A comparison. -/
  | comparison (p : Predicate)
  /-- Alternatives between parentheses, each with all that has to hold. -/
  | parentheses (alternatives : List (List Formula))

/-- Alternatives, of each of which all parts have to hold. -/
def alternatives (part : Reader Formula) : Reader (List (List Formula)) :=
  chainOf (.word "OR") (chainOf (.word "AND") part)

/-- A comparison, or alternatives between parentheses that are nested less deep than a bound. -/
def formula : Nat → Reader Formula
  | 0, _ => none
  | depth + 1, tokens =>
    match tokens with
    | .opening :: rest =>
      match alternatives (formula depth) rest with
      | some (found, .closing :: last) => some (.parentheses found, last)
      | _ => none
    | tokens => (comparison tokens).map fun found => (.comparison found.1, found.2)

/-- All of the tokens behind a keyword. -/
def clause? (keyword : Text) : List (Token Text) → Option (List (List Formula))
  | .word s :: rest =>
    if s = keyword then
      match alternatives (formula (rest.length + 1)) rest with
      | some (found, []) => some found
      | _ => none
    else none
  | _ => none

/-- What a clause says: the alternatives behind its keyword, with the values at its placeholders. -/
def read? (caps : Capabilities) (keyword sql : Text) (bindings : List Text) :
    Option (List (List Formula)) :=
  (tokens? caps sql).bind fun tokens => (supply? tokens bindings).bind (clause? keyword)

end Clause

end FilterSql
