/-
# FilterSql.Proofs.Clause.Meaning -- a clause says what its conditions say

The clause of well-formed conditions is read back as their conjunction in order: same columns, same
operators, same operands, members in order, and the combinator of every group with two members or
more. A group with one member is that member between parentheses and shows no combinator, so the
clause determines its conditions up to the combinators of such groups and not beyond.

The way goes through tokens: for each part, the text that is written spells the tokens, the bindings
are the values of the tokens, and the tokens are read back as the part.
-/

import FilterSql.Proofs.Clause.Reader
import FilterSql.Proofs.Text.Cuts

namespace FilterSql

open Clause (Token path)

/-! ## Tokens of conditions -/

/-- The token of an operator. -/
def Operator.token {α : Type} : Operator → Token α
  | eq => .sign "="
  | neq => .sign "<>"
  | gt => .sign ">"
  | gte => .sign ">="
  | lt => .sign "<"
  | lte => .sign "<="
  | like => .word "LIKE"
  | ilike => .word "ILIKE"
  | isIn => .word "IN"

/-- The tokens of a predicate, values included. -/
def Predicate.tokens (caps : Capabilities) (p : Predicate) : List (Token Text) :=
  if p.operator = .isIn then
    path p.column ++ ([Token.word "IN", Token.opening] ++
      ([Token.comma].intercalate (p.operand.items.map fun v => [Token.value v]) ++
        [Token.closing]))
  else if p.operator = .ilike ∧ caps.supportsIlike = false then
    [Token.word "LOWER", Token.opening] ++ (path p.column ++
      [Token.closing, Token.word "LIKE", Token.word "LOWER", Token.opening,
        Token.value p.operand.literal, Token.closing])
  else path p.column ++ [p.operator.token, Token.value p.operand.literal]

/-- The tokens of a condition, values included. -/
def Condition.tokens (caps : Capabilities) : Condition → List (Token Text)
  | predicate p => p.tokens caps
  | group g =>
    [Token.opening] ++ ([Token.word g.combinator.keyword].intercalate
      (g.members.map (Predicate.tokens caps)) ++ [Token.closing])

/-- The tokens of a clause, values included. -/
def Clause.tokensOf (caps : Capabilities) (keyword : Text) (conditions : List Condition) :
    List (Token Text) :=
  .word keyword :: [Token.word "AND"].intercalate (conditions.map (Condition.tokens caps))

/-- The fragment of a clause. -/
theorem conditionClause?_eq_some {caps : Capabilities} {keyword : Text}
    {conditions : List Condition} (ne : conditions ≠ []) :
    conditionClause? caps keyword conditions =
      some (Fragment.raw (keyword ++ " ") ++
        Fragment.join " AND " (conditions.map (Condition.fragment caps))) :=
  if_neg ne

/-! ## Values of tokens -/

namespace Clause

theorem blank_path (column : Text) : (path column).map Token.blank = path column := by
  rw [path, map_intercalate, List.map_map]
  rfl

theorem values_path (column : Text) : (path column).flatMap Token.values = [] := by
  rw [path, flatMap_intercalate _ rfl, List.flatMap_map]
  simp [Token.values]

/-- Parts between which no value stands have the values of each. -/
theorem values_intercalate {α : Type} (separator : Token Text) {items : List α}
    {write : α → List (Token Text)} {read : α → List Text} (none : separator.values = [])
    (h : ∀ item ∈ items, (write item).flatMap Token.values = read item) :
    ([separator].intercalate (items.map write)).flatMap Token.values = items.flatMap read := by
  rw [flatMap_intercalate _ (by simpa using none), List.flatMap_map]
  exact List.flatMap_congr h

theorem blank_intercalate {α : Type} (separator : Token Text) (items : List α)
    (write : α → List (Token Text)) :
    ([separator].intercalate (items.map write)).map Token.blank =
      [separator.blank].intercalate (items.map fun item => (write item).map Token.blank) := by
  rw [map_intercalate, List.map_map]
  rfl

end Clause

theorem Operator.blank_token (operator : Operator) :
    (operator.token : Token Text).blank = operator.token := by
  cases operator <;> rfl

theorem Operator.values_token (operator : Operator) :
    (operator.token : Token Text).values = [] := by
  cases operator <;> rfl

/-- The values of its tokens are what a predicate binds. -/
theorem Predicate.values_tokens (caps : Capabilities) (p : Predicate) :
    (p.tokens caps).flatMap Token.values = (p.fragment caps).bindings := by
  -- Three ways of writing: a list, the fallback for `ILIKE`, and a sign or word with one value.
  unfold tokens fragment
  dsimp only
  split
  · have items : ([Token.comma].intercalate (p.operand.items.map fun v =>
        [Token.value v])).flatMap Token.values = p.operand.items.flatMap fun v => [v] :=
      Clause.values_intercalate .comma rfl fun _ _ => rfl
    simp [Clause.values_path, items, Token.values, Fragment.bindings_join, List.flatMap_map]
  · split
    · simp [Clause.values_path, Token.values]
    · rw [List.flatMap_append, Clause.values_path, List.flatMap_cons, Operator.values_token]
      simp [Token.values]

theorem Condition.values_tokens (caps : Capabilities) (c : Condition) :
    (c.tokens caps).flatMap Token.values = (c.fragment caps).bindings := by
  cases c with
  | predicate p => exact p.values_tokens caps
  | group g =>
    have members := Clause.values_intercalate (.word g.combinator.keyword) rfl
      fun p (_ : p ∈ g.members) => p.values_tokens caps
    simp [tokens, fragment, Group.fragment, members, Token.values, Fragment.bindings_join,
      List.flatMap_map]

/-! ## Texts of tokens -/

/-- The fixed texts of clauses with their tokens. -/
def Clause.phrases : List (Text × List (Token Unit)) :=
  [("(", [.opening]), (")", [.closing]), (", ", [.comma]), ("?", [.value ()]),
    (" IN (", [.word "IN", .opening]), ("LOWER(", [.word "LOWER", .opening]),
    (") LIKE LOWER(?)", [.closing, .word "LIKE", .word "LOWER", .opening, .value (), .closing]),
    (" AND ", [.word "AND"]), (" OR ", [.word "OR"]), ("WHERE ", [.word "WHERE"]),
    ("HAVING ", [.word "HAVING"])]

section Spelling

variable (dialect : Dialect)

theorem spells_phrase (s : Text) {tokens : List (Token Unit)}
    (h : (s, tokens) ∈ Clause.phrases) :
    Clause.Spells dialect.capabilities s tokens := by
  have scanned : ∀ phrase ∈ Clause.phrases,
      Clause.run dialect.capabilities .between phrase.1 = some (phrase.2, .between) := by
    cases dialect <;> decide +kernel
  exact Clause.spells_of_run (scanned _ h)

theorem spells_symbol (operator : Operator) :
    Clause.Spells dialect.capabilities (" " ++ operator.symbol ++ " ?")
      [operator.token, .value ()] := by
  apply Clause.spells_of_run
  cases dialect <;> cases operator <;> rfl

theorem spells_keyword (combinator : Combinator) :
    Clause.Spells dialect.capabilities (" " ++ combinator.keyword ++ " ")
      [.word combinator.keyword] := by
  cases combinator with
  | and => exact spells_phrase dialect " AND " (by decide)
  | or => exact spells_phrase dialect " OR " (by decide)

/-- A quoted column in front of a text that starts with a character of SQL. -/
theorem spells_quote_append {column t : Text} {tokens : List (Token Unit)}
    (hcolumn : isIdentifier column = true) (first : t.head?.any isSqlChar = true)
    (h : Clause.Spells dialect.capabilities t tokens) :
    Clause.Spells dialect.capabilities (dialect.capabilities.quote column ++ t)
      (path column ++ tokens) := by
  cases t with
  | nil => cases first
  | cons c rest =>
    have other : c ≠ dialect.capabilities.closeQuote := dialect.regular.ne_closeQuote first
    exact h.quote_append dialect.regular hcolumn other

/-- What is written for a predicate spells its tokens. -/
theorem Predicate.spells_fragment {p : Predicate} (h : p.WellFormed) :
    Clause.Spells dialect.capabilities (p.fragment dialect.capabilities).sql
      ((p.tokens dialect.capabilities).map Token.blank) := by
  have column := h.column
  unfold tokens fragment
  dsimp only
  split
  · have marks : Clause.Spells dialect.capabilities
        ((", " : Text).intercalate (p.operand.items.map fun _ => "?"))
        ([Token.comma].intercalate (p.operand.items.map fun _ => [.value ()])) :=
      .intercalate (spells_phrase dialect ", " (by decide))
        fun _ _ => spells_phrase dialect "?" (by decide)
    have opening : Clause.Spells dialect.capabilities " IN (" [.word "IN", .opening] :=
      spells_phrase dialect " IN (" (by decide)
    have closing : Clause.Spells dialect.capabilities ")" [.closing] :=
      spells_phrase dialect ")" (by decide)
    have whole := spells_quote_append dialect column (by rfl)
      (opening.append (marks.append closing))
    simpa [Fragment.sql_join, Function.comp_def, Piece.placeholder, Clause.blank_path,
      Clause.blank_intercalate, Token.blank] using whole
  · split
    · have opening : Clause.Spells dialect.capabilities "LOWER(" [.word "LOWER", .opening] :=
        spells_phrase dialect "LOWER(" (by decide)
      have pattern : Clause.Spells dialect.capabilities ") LIKE LOWER(?)"
          [.closing, .word "LIKE", .word "LOWER", .opening, .value (), .closing] :=
        spells_phrase dialect ") LIKE LOWER(?)" (by decide)
      have whole := opening.append
        (spells_quote_append dialect column (by rfl) pattern)
      simpa [Piece.placeholder, Clause.blank_path, Token.blank] using whole
    · have whole := spells_quote_append dialect column (by rfl)
        (spells_symbol dialect p.operator)
      rw [List.map_append, Clause.blank_path, List.map_cons, Operator.blank_token]
      simpa [Piece.placeholder, Token.blank] using whole

theorem Condition.spells_fragment {c : Condition} (h : c.WellFormed) :
    Clause.Spells dialect.capabilities (c.fragment dialect.capabilities).sql
      ((c.tokens dialect.capabilities).map Token.blank) := by
  cases h with
  | predicate hp => exact Predicate.spells_fragment dialect hp
  | @group g _ members =>
    have inside := Clause.Spells.intercalate (spells_keyword dialect g.combinator)
      fun p hp => Predicate.spells_fragment dialect (members p hp)
    have opening : Clause.Spells dialect.capabilities "(" [.opening] :=
      spells_phrase dialect "(" (by decide)
    have closing : Clause.Spells dialect.capabilities ")" [.closing] :=
      spells_phrase dialect ")" (by decide)
    have whole := opening.append (inside.append closing)
    simpa [tokens, fragment, Group.fragment, Fragment.sql_join, Function.comp_def,
      Clause.blank_intercalate, Token.blank] using whole

end Spelling

/-! ## Reading tokens back -/

namespace Clause

theorem column_path (column : Text) {rest : List (Token Text)} (stop : rest.head? ≠ some .dot) :
    Clause.column (path column ++ rest) = some (column, rest) := by
  have names : chainOf .dot name (path column ++ rest) =
      some ((column.splitOn '.').map fun s => s, rest) :=
    chainOf_intercalate (List.splitOn_ne_nil _ _) stop fun _ _ _ _ => rfl
  rw [Clause.column, names, Option.map_some, List.map_id', List.intercalate_splitOn]

/-- A comparison that starts with a column goes on behind it. -/
theorem comparison_path (column : Text) {rest : List (Token Text)}
    (stop : rest.head? ≠ some .dot) :
    comparison (path column ++ rest) = comparisonOf column rest := by
  have read := column_path column stop
  obtain ⟨first, more, split⟩ : ∃ first more, path column = .name first :: more := by
    cases names : column.splitOn '.' with
    | nil => exact absurd names (List.splitOn_ne_nil _ _)
    | cons first others =>
      refine ⟨first, ?_⟩
      rw [path, names, List.map_cons, List.intercalate_cons_cons_left]
      exact ⟨_, rfl⟩
  rw [split, List.cons_append] at read ⊢
  rw [comparison, read, Option.bind_some]
  · intro s later same
    cases same

end Clause

/-- Every token of an operator on one literal is read as that operator. -/
theorem Operator.operator?_token {operator : Operator} (single : operator ≠ .isIn) :
    Clause.operator? operator.token = some operator := by
  cases operator with
  | isIn => exact absurd rfl single
  | _ => rfl

/-- The tokens of a predicate are read back as the predicate. -/
theorem Predicate.comparison_tokens (caps : Capabilities) {p : Predicate} (h : p.WellFormed)
    (rest : List (Token Text)) :
    Clause.comparison (p.tokens caps ++ rest) = some (p, rest) := by
  obtain ⟨column, operator, operand⟩ := p
  have suits := h.operand
  unfold tokens
  dsimp only at suits ⊢
  cases suits with
  | @list items ne =>
    -- The list ends at its closing parenthesis, which is no comma.
    have values : Clause.chainOf .comma Clause.value
        ([Token.comma].intercalate (items.map fun v => [.value v]) ++ .closing :: rest) =
          some (items.map fun v => v, .closing :: rest) :=
      Clause.chainOf_intercalate ne (by simp) fun _ _ _ _ => rfl
    rw [List.map_id'] at values
    simp only [if_true, Operand.items, List.append_assoc, List.cons_append, List.nil_append]
    rw [Clause.comparison_path column (by simp), Clause.comparisonOf, if_pos rfl, values]
  | @single _ literal other =>
    rw [if_neg other]
    split
    · next lowered =>
      -- Only the fallback starts with a word, and it is read as the operator it stands in for.
      obtain ⟨rfl, -⟩ := lowered
      simp only [Operand.literal, List.append_assoc, List.cons_append, List.nil_append]
      rw [Clause.comparison, if_pos rfl, Clause.column_path column (by simp), Option.bind_some,
        Clause.loweredOf, if_pos ⟨rfl, rfl⟩]
    · have token : (operator.token : Token Text) ≠ .dot := by
        cases operator <;> nofun
      simp only [Operand.literal, List.append_assoc, List.cons_append, List.nil_append]
      rw [Clause.comparison_path column (by simpa using token), Clause.comparisonOf,
        Operator.operator?_token other, Option.map_some]

namespace Clause

/-- What a condition is read as: a predicate as a comparison, the members of a group between
parentheses, as alternatives or as one alternative. -/
def formulaOf : Condition → Formula
  | .predicate p => .comparison p
  | .group ⟨.or, members⟩ => .parentheses (members.map fun p => [.comparison p])
  | .group ⟨.and, members⟩ => .parentheses [members.map .comparison]

end Clause

/-- A comparison is read at any depth. -/
theorem Predicate.formula_tokens (caps : Capabilities) {p : Predicate} (h : p.WellFormed)
    (depth : Nat) (rest : List (Token Text)) :
    Clause.formula (depth + 1) (p.tokens caps ++ rest) = some (.comparison p, rest) := by
  have read := p.comparison_tokens caps h rest
  generalize p.tokens caps ++ rest = tokens at read ⊢
  unfold Clause.formula
  split
  · -- No comparison starts with a parenthesis.
    cases read
  · rw [read]
    rfl

/-- `AND` binds tighter than `OR`: predicates that are joined by the one, and then by the other, are
read as alternatives of conjunctions. -/
theorem Clause.alternatives_tokens (caps : Capabilities) (conjunctions : List (List Predicate))
    (ne : conjunctions ≠ []) (h : ∀ ps ∈ conjunctions, ps ≠ [] ∧ ∀ p ∈ ps, p.WellFormed)
    (depth : Nat) {rest : List (Token Text)} (stop : ∀ s, rest.head? ≠ some (.word s)) :
    alternatives (formula (depth + 1)) ([Token.word "OR"].intercalate (conjunctions.map fun ps =>
        [Token.word "AND"].intercalate (ps.map (Predicate.tokens caps))) ++ rest) =
      some (conjunctions.map fun ps => ps.map Formula.comparison, rest) := by
  -- Behind a conjunction stands `OR` or the end, and neither is `AND`.
  refine chainOf_intercalate ne (stop _) fun ps hps later follows => ?_
  refine chainOf_intercalate (h ps hps).1 ?_ fun p hp last _ =>
    p.formula_tokens caps ((h ps hps).2 p hp) depth last
  rcases follows with rfl | follows
  · exact stop _
  · rw [follows]
    decide

example :
    Clause.read? Dialect.postgres.capabilities "WHERE"
        "WHERE \"a\" = ? OR \"b\" < ? AND (\"c\" >= ?)" ["1", "2", "3"] =
      some [[.comparison ⟨"a", .eq, .single "1"⟩],
        [.comparison ⟨"b", .lt, .single "2"⟩,
          .parentheses [[.comparison ⟨"c", .gte, .single "3"⟩]]]] := by
  rfl

/-- A condition is read back behind at most one parenthesis. -/
theorem Condition.formula_tokens (caps : Capabilities) {c : Condition} (h : c.WellFormed)
    (depth : Nat) (rest : List (Token Text)) :
    Clause.formula (depth + 2) (c.tokens caps ++ rest) = some (Clause.formulaOf c, rest) := by
  cases h with
  | predicate hp => exact Predicate.formula_tokens caps hp (depth + 1) rest
  | @group g ne members =>
    obtain ⟨combinator, predicates⟩ := g
    have opened : tokens caps (.group ⟨combinator, predicates⟩) ++ rest =
        .opening :: ([Token.word combinator.keyword].intercalate
          (predicates.map (Predicate.tokens caps)) ++ .closing :: rest) := by
      simp [tokens]
    rw [opened, Clause.formula]
    -- Under `OR` every member is an alternative; under `AND` all of them are the only one.
    cases combinator with
    | or =>
      have inside := Clause.alternatives_tokens caps (predicates.map fun p => [p])
        (by simpa using ne) (by simpa using members) depth
        (show ∀ s, (Token.closing :: rest).head? ≠ some (.word s) by simp)
      simp only [List.map_map, Function.comp_def, List.map_singleton,
        List.intercalate_singleton] at inside
      rw [Combinator.keyword, inside]
      rfl
    | and =>
      have inside := Clause.alternatives_tokens caps [predicates] (by simp)
        (by simpa using ⟨ne, members⟩) depth
        (show ∀ s, (Token.closing :: rest).head? ≠ some (.word s) by simp)
      simp only [List.map_singleton, List.intercalate_singleton] at inside
      rw [Combinator.keyword, inside]
      rfl

theorem Condition.tokens_ne_nil (caps : Capabilities) {c : Condition} (h : c.WellFormed) :
    c.tokens caps ≠ [] := by
  intro empty
  have read := c.formula_tokens caps h 0 []
  rw [empty] at read
  cases read

/-! ## Reading clauses -/

namespace Clause

section Clauses

variable (caps : Capabilities) (keyword : Text) {conditions : List Condition}

/-- There is a token behind the keyword. -/
theorem exists_length_tokensOf (ne : conditions ≠ []) (h : ∀ c ∈ conditions, c.WellFormed) :
    ∃ n, ([Token.word "AND"].intercalate (conditions.map (Condition.tokens caps))).length =
      n + 1 := by
  apply Nat.exists_eq_succ_of_ne_zero
  intro none
  rw [List.length_eq_zero_iff] at none
  cases conditions with
  | nil => exact ne rfl
  | cons c rest =>
    have first := c.tokens_ne_nil caps (h c (by simp))
    by_cases last : rest = []
    · rw [last, List.map_singleton, List.intercalate_singleton] at none
      exact first none
    · rw [List.map_cons, List.intercalate_cons_of_ne_nil (by simpa using last)] at none
      exact first (List.append_eq_nil_iff.1 (List.append_eq_nil_iff.1 none).1).1

/-- The tokens of a clause are read back as the conjunction of its conditions. -/
theorem clause?_tokensOf (ne : conditions ≠ []) (h : ∀ c ∈ conditions, c.WellFormed) :
    clause? keyword (tokensOf caps keyword conditions) = some [conditions.map formulaOf] := by
  obtain ⟨n, bound⟩ := exists_length_tokensOf caps ne h
  -- The top level has one alternative, as every `OR` stands between parentheses.
  have read : alternatives (formula (n + 2)) ([Token.word "AND"].intercalate
      (conditions.map (Condition.tokens caps)) ++ []) = some ([conditions.map formulaOf], []) := by
    refine chain_part ?_ (by simp)
    exact chainOf_intercalate ne (by simp) fun c hc later _ =>
      c.formula_tokens caps (h c hc) n later
  rw [List.append_nil] at read
  rw [tokensOf, clause?, if_pos rfl, bound, read]

theorem values_tokensOf :
    (tokensOf caps keyword conditions).flatMap Token.values =
      Fragment.bindings (Fragment.raw (keyword ++ " ") ++
        Fragment.join " AND " (conditions.map (Condition.fragment caps))) := by
  rw [tokensOf, List.flatMap_cons, Fragment.bindings_append, Fragment.bindings_raw,
    Fragment.bindings_join, List.flatMap_map]
  exact values_intercalate (.word "AND") rfl fun c _ => c.values_tokens caps

end Clauses

/-- What is written for a clause spells its tokens. -/
theorem spells_tokensOf (dialect : Dialect) {keyword : Text}
    (known : (keyword ++ " ", [Token.word keyword]) ∈ phrases) {conditions : List Condition}
    (h : ∀ c ∈ conditions, c.WellFormed) :
    Spells dialect.capabilities
      (Fragment.sql (Fragment.raw (keyword ++ " ") ++ Fragment.join " AND "
        (conditions.map (Condition.fragment dialect.capabilities))))
      ((tokensOf dialect.capabilities keyword conditions).map Token.blank) := by
  have and : Spells dialect.capabilities " AND " [.word "AND"] :=
    spells_phrase dialect " AND " (by decide)
  have inside := and.intercalate fun c hc => Condition.spells_fragment dialect (h c hc)
  have whole := (spells_phrase dialect _ known).append inside
  rw [Fragment.sql_append, Fragment.sql_raw, Fragment.sql_join, List.map_map, tokensOf,
    List.map_cons, blank_intercalate]
  exact whole

end Clause

/-- A clause of conditions is there and is read back as their conjunction. -/
theorem exists_conditionClause?_read (dialect : Dialect) {keyword : Text}
    (known : (keyword ++ " ", [Token.word keyword]) ∈ Clause.phrases)
    {conditions : List Condition} (ne : conditions ≠ []) (h : ∀ c ∈ conditions, c.WellFormed) :
    ∃ f, conditionClause? dialect.capabilities keyword conditions = some f ∧
      Clause.read? dialect.capabilities keyword f.sql f.bindings =
        some [conditions.map Clause.formulaOf] := by
  refine ⟨_, conditionClause?_eq_some ne, ?_⟩
  -- The text spells the tokens, the bindings are their values, and the tokens are read back.
  rw [Clause.read?, (Clause.spells_tokensOf dialect known h).tokens?_eq, Option.bind_some,
    ← Clause.values_tokensOf, Clause.supply?_blank, Option.bind_some]
  exact Clause.clause?_tokensOf dialect.capabilities keyword ne h

/-! ## What a clause shows -/

/-- The condition without the combinator of a group with one member, which no clause shows. -/
def Condition.shown : Condition → Condition
  | predicate p => predicate p
  | group g => group (if g.members.length = 1 then { g with combinator := .and } else g)

/-- The condition that is shown is written in the same way. -/
theorem Condition.fragment_shown (caps : Capabilities) (c : Condition) :
    c.shown.fragment caps = c.fragment caps := by
  cases c with
  | predicate p => rfl
  | group g =>
    obtain ⟨combinator, members⟩ := g
    by_cases one : members.length = 1
    · obtain ⟨p, rfl⟩ := List.length_eq_one_iff.1 one
      simp [shown, fragment, Group.fragment, Fragment.join]
    · simp [shown, one]

namespace Clause

/-- One alternative is read like several alternatives only if there is one member on both sides. -/
theorem exists_singleton_of_alternatives_eq {members others : List Predicate}
    (h : others.map (fun p => [Formula.comparison p]) = [members.map Formula.comparison]) :
    ∃ p, members = [p] ∧ others = [p] := by
  obtain ⟨p, rfl, one⟩ := List.map_eq_singleton_iff.1 h
  obtain ⟨q, rfl, same⟩ := List.map_eq_singleton_iff.1 one.symm
  cases same
  exact ⟨_, rfl, rfl⟩

/-- Conditions that are read alike show the same. -/
theorem shown_eq_of_formulaOf_eq {c d : Condition} (h : formulaOf c = formulaOf d) :
    c.shown = d.shown := by
  cases c with
  | predicate p =>
    cases d with
    | predicate q =>
      cases h
      rfl
    | group g =>
      -- One is between parentheses and the other is not.
      obtain ⟨combinator, others⟩ := g
      cases combinator <;> cases h
  | group g =>
    obtain ⟨combinator, members⟩ := g
    cases d with
    | predicate q => cases combinator <;> cases h
    | group k =>
      obtain ⟨combinator', others⟩ := k
      cases combinator with
      | and =>
        cases combinator' with
        | and =>
          have same := (List.cons.inj (Formula.parentheses.inj h)).1
          rw [List.map_injective_iff.2 (fun _ _ => Formula.comparison.inj) same]
        | or =>
          -- Different combinators are read alike with one member only, and then neither is shown.
          obtain ⟨p, rfl, rfl⟩ :=
            exists_singleton_of_alternatives_eq (Formula.parentheses.inj h).symm
          rfl
      | or =>
        cases combinator' with
        | and =>
          obtain ⟨p, rfl, rfl⟩ := exists_singleton_of_alternatives_eq (Formula.parentheses.inj h)
          rfl
        | or =>
          have same := Formula.parentheses.inj h
          have injective : Function.Injective fun p : Predicate => [Formula.comparison p] := by
            intro p q equal
            exact Formula.comparison.inj (List.cons.inj equal).1
          rw [List.map_injective_iff.2 injective same]

theorem map_shown_eq_of_map_formulaOf_eq {conditions others : List Condition}
    (h : conditions.map formulaOf = others.map formulaOf) :
    conditions.map Condition.shown = others.map Condition.shown := by
  induction conditions generalizing others with
  | nil =>
    rw [List.map_nil, eq_comm, List.map_eq_nil_iff] at h
    rw [h]
  | cons c rest ih =>
    cases others with
    | nil => cases h
    | cons d others =>
      obtain ⟨first, later⟩ := List.cons.inj h
      rw [List.map_cons, List.map_cons, shown_eq_of_formulaOf_eq first, ih later]

end Clause

/-- The conditions that are shown have the same clause. -/
theorem conditionClause?_map_shown (caps : Capabilities) (keyword : Text)
    (conditions : List Condition) :
    conditionClause? caps keyword (conditions.map Condition.shown) =
      conditionClause? caps keyword conditions := by
  unfold conditionClause?
  simp only [List.map_eq_nil_iff, List.map_map, Function.comp_def, Condition.fragment_shown]

/-- For every dialect, the clause of well-formed conditions on rows, or on groups of rows, is read
back as their conjunction in order, and two such lists have a clause with the same text and the same
bindings exactly when they show the same conditions. -/
theorem Dialect.read_clauses (dialect : Dialect) {conditions : List Condition}
    (ne : conditions ≠ []) (h : ∀ c ∈ conditions, c.WellFormed) :
    (∃ rows, whereClause? dialect.capabilities conditions = some rows ∧
        Clause.read? dialect.capabilities "WHERE" rows.sql rows.bindings =
          some [conditions.map Clause.formulaOf]) ∧
      (∃ groups, havingClause? dialect.capabilities conditions = some groups ∧
        Clause.read? dialect.capabilities "HAVING" groups.sql groups.bindings =
          some [conditions.map Clause.formulaOf]) ∧
      ∀ others, others ≠ [] → (∀ c ∈ others, c.WellFormed) →
        ((whereClause? dialect.capabilities others).map (fun f => (f.sql, f.bindings)) =
            (whereClause? dialect.capabilities conditions).map (fun f => (f.sql, f.bindings)) ↔
          others.map Condition.shown = conditions.map Condition.shown) := by
  have rows : ∀ conditions : List Condition, conditions ≠ [] → (∀ c ∈ conditions, c.WellFormed) →
      ∃ f, whereClause? dialect.capabilities conditions = some f ∧
        Clause.read? dialect.capabilities "WHERE" f.sql f.bindings =
          some [conditions.map Clause.formulaOf] := fun _ ne h =>
    exists_conditionClause?_read dialect (by decide) ne h
  refine ⟨rows conditions ne h, exists_conditionClause?_read dialect (by decide) ne h, ?_⟩
  intro others ne' h'
  constructor
  · intro same
    obtain ⟨f, written, read⟩ := rows conditions ne h
    obtain ⟨f', written', read'⟩ := rows others ne' h'
    rw [written, written', Option.map_some, Option.map_some, Option.some.injEq,
      Prod.mk.injEq] at same
    rw [same.1, same.2, read] at read'
    -- One text with one list of bindings is read in one way.
    have formulas := (List.cons.inj (Option.some.inj read')).1
    exact (Clause.map_shown_eq_of_map_formulaOf_eq formulas).symm
  · intro same
    have clause : whereClause? dialect.capabilities others =
        whereClause? dialect.capabilities conditions := by
      unfold whereClause?
      rw [← conditionClause?_map_shown, same, conditionClause?_map_shown]
    rw [clause]

/-- A group, a comparison without letter case and a list, in a dialect that has no `ILIKE`. -/
theorem Dialect.read_clauses_mixed :
    let conditions : List Condition :=
      [.group ⟨.or, [⟨"t.name", .ilike, .single "%a?"⟩, ⟨"n", .isIn, .list ["1", "2"]⟩]⟩,
        .predicate ⟨"n", .lte, .single "3"⟩]
    ∃ rows, whereClause? mysql.capabilities conditions = some rows ∧
      Clause.read? mysql.capabilities "WHERE" rows.sql rows.bindings =
        some [[.parentheses [[.comparison ⟨"t.name", .ilike, .single "%a?"⟩],
            [.comparison ⟨"n", .isIn, .list ["1", "2"]⟩]],
          .comparison ⟨"n", .lte, .single "3"⟩]] := by
  intro conditions
  have pattern : Predicate.WellFormed ⟨"t.name", .ilike, .single "%a?"⟩ :=
    ⟨by decide, .single (by decide)⟩
  have list : Predicate.WellFormed ⟨"n", .isIn, .list ["1", "2"]⟩ := ⟨by decide, .list (by decide)⟩
  have bound : Predicate.WellFormed ⟨"n", .lte, .single "3"⟩ := ⟨by decide, .single (by decide)⟩
  have wellFormed : ∀ c ∈ conditions, c.WellFormed := by
    have members := List.forall_mem_cons.2 ⟨pattern, List.forall_mem_singleton.2 list⟩
    exact List.forall_mem_cons.2
      ⟨.group (by simp) members, List.forall_mem_singleton.2 (.predicate bound)⟩
  exact (read_clauses mysql (by simp [conditions]) wellFormed).1

/-- The combinator of a group with one member is not shown: `or=(a.eq.1)` and `and=(a.eq.1)` ask for
different conditions and have the same clause in every dialect. -/
theorem Dialect.oneMemberGroups_alike :
    let p : Predicate := ⟨"a", .eq, .single "1"⟩
    (Query.kept (Params.ofPairs [("or", "(a.eq.1)")])).conditions = [.group ⟨.or, [p]⟩] ∧
      (Query.kept (Params.ofPairs [("and", "(a.eq.1)")])).conditions = [.group ⟨.and, [p]⟩] ∧
      [Condition.group ⟨.or, [p]⟩] ≠ [.group ⟨.and, [p]⟩] ∧
      ∀ dialect : Dialect, whereClause? dialect.capabilities [.group ⟨.or, [p]⟩] =
        whereClause? dialect.capabilities [.group ⟨.and, [p]⟩] := by
  intro p
  refine ⟨by decide +kernel, by decide +kernel, by simp, fun dialect => ?_⟩
  have shown := conditionClause?_map_shown dialect.capabilities "WHERE" [.group ⟨.or, [p]⟩]
  exact shown.symm

end FilterSql
