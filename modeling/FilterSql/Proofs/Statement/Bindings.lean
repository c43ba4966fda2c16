/-
# FilterSql.Proofs.Statement.Bindings -- which values a statement binds, and in which order

A statement is one sequence of texts and holes. No text in it holds a question mark, so the
question marks of the SQL text are the holes, and the values stand in the order of their holes. This
module also says which values these are, read directly off the parameters: `Params.literals` goes
through groups, filters on rows and filters on groups of rows, and collects what each item asks to
bind. It knows nothing of verdicts, queries or fragments.

Items that are skipped bind nothing, and neither does a list without items; a column plays no part.
-/

import FilterSql.Proofs.Query.Accepted
import FilterSql.Proofs.Statement.Characters

namespace FilterSql

/-! ## Literals of parameters -/

/-- The literals of an operand: the items of a list, for any other operator the operand as it
stands, and none for an operator that is not known. -/
def literalsOf (operator operand : Text) : List Text :=
  match Operator.ofName? operator with
  | none => []
  | some .isIn => Text.items (Text.unwrap (Text.trim operand))
  | some _ => [operand]

/-- The literals of a filter value `operator.operand`. -/
def literalsOfFilter (value : Text) : List Text :=
  match cut? ['.'] value with
  | none => []
  | some (operator, operand) => literalsOf operator operand

/-- The literals of a term `column.operator.operand`. -/
def literalsOfTerm (term : Text) : List Text :=
  match cut? ['.'] term with
  | none => []
  | some (_, value) => literalsOfFilter value

namespace Params

/-- The literals of all groups: of every `or` value, then of every `and` value, term by term. -/
def groupLiterals (p : Params) : List Text :=
  (p.values Directive.or.key ++ p.values Directive.and.key).flatMap fun value =>
    (Text.terms (Text.unwrap (Text.trim value))).flatMap literalsOfTerm

/-- The literals of the values of all keys of which a column is picked, key by key. -/
def columnLiterals (p : Params) (pick : Directive → Option Text) : List Text :=
  p.entries.flatMap fun entry =>
    (pick (Directive.ofKey entry.1)).toList.flatMap fun _ => entry.2.flatMap literalsOfFilter

/-- All literals that parameters ask to bind, in the order of their placeholders: those of groups,
of filters on rows, and of filters on groups of rows. -/
def literals (p : Params) : List Text :=
  p.groupLiterals ++ p.columnLiterals Directive.rowColumn? ++
    p.columnLiterals Directive.groupColumn?

end Params

/-! ## Literals of verdicts -/

namespace Verdict

/-- The literals of the predicate that was kept, if one was. -/
def literals (v : Verdict Predicate) : List Text := v.kept?.toList.flatMap (·.operand.items)

theorem flatMap_keptOf (verdicts : List (Verdict Predicate)) :
    (keptOf verdicts).flatMap (·.operand.items) = verdicts.flatMap literals := by
  induction verdicts with
  | nil => rfl
  | cons v rest ih =>
    rw [List.flatMap_cons, ← ih]
    cases v <;> simp [keptOf, List.filterMap_cons, kept?, literals]

/-- The literals of kept items are known once those of each single item are. -/
theorem flatMap_keptOf_map {α : Type} {judge : α → Verdict Predicate} {spec : α → List Text}
    {items : List α} (h : ∀ item ∈ items, (judge item).literals = spec item) :
    (keptOf (items.map judge)).flatMap (·.operand.items) = items.flatMap spec := by
  rw [flatMap_keptOf, List.flatMap_map]
  exact List.flatMap_congr h

end Verdict

theorem Operand.items_of_ofText? {operator : Operator} {s : Text} {operand : Operand}
    (h : Operand.ofText? operator s = some operand) :
    operand.items =
      if operator = .isIn then Text.items (Text.unwrap (Text.trim s)) else [s] := by
  unfold Operand.ofText? at h
  split at h
  · next isIn =>
    rw [if_pos isIn]
    split at h
    · cases h
    · next eq =>
      cases h
      exact eq.symm
  · next other =>
    cases h
    rw [if_neg other]
    rfl

theorem Operand.ofText?_eq_none_iff {operator : Operator} {s : Text} :
    Operand.ofText? operator s = none ↔
      operator = .isIn ∧ Text.items (Text.unwrap (Text.trim s)) = [] := by
  unfold Operand.ofText?
  split
  · next isIn =>
    split
    · next eq => simp [isIn, eq]
    · next eq => simp [eq]
  · next other => simp [other]

namespace Predicate

/-- A predicate that does not refuse the query is kept with its literals or has none. -/
theorem literals_judge {column operator value : Text}
    (accepted : (judge column operator value).refusal? = none) :
    (judge column operator value).literals = literalsOf operator value := by
  unfold literalsOf
  cases name : Operator.ofName? operator with
  | none => simp [judge, name, Verdict.literals, Verdict.kept?]
  | some known =>
    cases read : Operand.ofText? known value with
    | none =>
      -- Only a list without items cannot be read, and it has no literals.
      obtain ⟨rfl, empty⟩ := Operand.ofText?_eq_none_iff.1 read
      simp [judge, name, read, Verdict.literals, Verdict.kept?, empty]
    | some operand =>
      have items := Operand.items_of_ofText? read
      simp only [judge, name, read, checkIdentifier] at accepted ⊢
      split at accepted
      · next valid =>
        have kept : (Verdict.kept (Predicate.mk column known operand)).literals =
            operand.items := by
          simp [Verdict.literals, Verdict.kept?]
        rw [if_pos valid]
        apply kept.trans
        apply items.trans
        cases known <;> rfl
      · cases accepted

theorem literals_judgeFilter {column value : Text}
    (accepted : (judgeFilter column value).refusal? = none) :
    (judgeFilter column value).literals = literalsOfFilter value := by
  cases cut : cut? ['.'] value with
  | none => simp [judgeFilter, literalsOfFilter, cut, Verdict.literals, Verdict.kept?]
  | some halves =>
    simp only [judgeFilter, literalsOfFilter, cut] at accepted ⊢
    exact literals_judge accepted

theorem literals_judgeTerm {term : Text} (accepted : (judgeTerm term).refusal? = none) :
    (judgeTerm term).literals = literalsOfTerm term := by
  cases first : cut? ['.'] term with
  | none => simp [judgeTerm, literalsOfTerm, first, Verdict.literals, Verdict.kept?]
  | some halves =>
    cases second : cut? ['.'] halves.2 with
    | none =>
      simp [judgeTerm, literalsOfTerm, literalsOfFilter, first, second, Verdict.literals,
        Verdict.kept?]
    | some rest =>
      simp only [judgeTerm, literalsOfTerm, literalsOfFilter, first, second] at accepted ⊢
      exact literals_judge accepted

end Predicate

/-! ## Literals of queries -/

/-- The literals of a condition in order. -/
def Condition.literals : Condition → List Text
  | predicate p => p.operand.items
  | group g => g.members.flatMap (·.operand.items)

namespace Query

variable {p : Params}

theorem literals_keptGroups (accepted : p.Accepted) :
    (keptGroups p).flatMap Condition.literals = p.groupLiterals := by
  -- A group without members is dropped, and it would have added nothing.
  have dropped : ∀ g : Group,
      (if g.members = [] then none else some (Condition.group g)).toList.flatMap
        Condition.literals = g.members.flatMap (·.operand.items) := by
    intro g
    split
    · next empty => simp [empty]
    · simp [Condition.literals]
  have one : ∀ group ∈ p.groups,
      (Verdict.keptOf (group.2.map Predicate.judgeTerm)).flatMap (·.operand.items) =
        group.2.flatMap literalsOfTerm := by
    intro group hg
    apply Verdict.flatMap_keptOf_map
    intro term ht
    apply Predicate.literals_judgeTerm
    exact accepted.groups _ (List.mem_map_of_mem hg) _ (List.mem_map_of_mem ht)
  have all : (keptGroups p).flatMap Condition.literals =
      p.groups.flatMap fun group => group.2.flatMap literalsOfTerm := by
    rw [keptGroups, List.filterMap_eq_flatMap_toList, List.flatMap_assoc]
    simp only [dropped, Params.groupVerdicts, List.flatMap_map]
    exact List.flatMap_congr one
  rw [all, Params.groups, Params.groupLiterals, List.flatMap_append, List.flatMap_append]
  simp only [List.flatMap_map]

/-- What is kept of filters that do not refuse the query has the literals of their values. -/
theorem literals_columns {pick : Directive → Option Text}
    (accepted : ∀ v ∈ p.columnVerdicts pick, v.refusal? = none) :
    (Verdict.keptOf (p.columnVerdicts pick)).flatMap (·.operand.items) =
      p.columnLiterals pick := by
  rw [Verdict.flatMap_keptOf, Params.columnVerdicts, Params.columnLiterals, List.flatMap_assoc]
  refine List.flatMap_congr fun entry he => ?_
  cases picked : pick (Directive.ofKey entry.1) with
  | none => rfl
  | some column =>
    have each : ∀ value ∈ entry.2,
        (Predicate.judgeFilter column value).literals = literalsOfFilter value := by
      intro value hv
      apply Predicate.literals_judgeFilter
      apply accepted
      exact Params.mem_columnVerdicts.2 ⟨entry, he, column, picked, value, hv, rfl⟩
    simp only [Option.toList_some, List.flatMap_singleton, List.flatMap_map]
    exact List.flatMap_congr each

/-- The conditions on rows bind the literals of groups and of filters on rows. -/
theorem literals_conditions (accepted : p.Accepted) :
    (kept p).conditions.flatMap Condition.literals =
      p.groupLiterals ++ p.columnLiterals Directive.rowColumn? := by
  have single : ((Verdict.keptOf p.filterVerdicts).map Condition.predicate).flatMap
      Condition.literals = p.columnLiterals Directive.rowColumn? := by
    rw [List.flatMap_map, Params.filterVerdicts_eq]
    exact literals_columns (Params.filterVerdicts_eq p ▸ accepted.filters)
  rw [kept, List.flatMap_append, literals_keptGroups accepted, single]

/-- The conditions on groups of rows bind the literals of their filters. -/
theorem literals_having (accepted : p.Accepted) :
    (kept p).having.flatMap Condition.literals = p.columnLiterals Directive.groupColumn? := by
  rw [kept, List.flatMap_map, Params.havingVerdicts_eq]
  exact literals_columns (Params.havingVerdicts_eq p ▸ accepted.having)

end Query

/-! ## Bindings of statements -/

theorem Predicate.bindings_fragment (caps : Capabilities) {p : Predicate} (h : p.WellFormed) :
    (p.fragment caps).bindings = p.operand.items := by
  obtain ⟨column, operator, operand⟩ := p
  unfold fragment
  cases h.operand with
  | list _ => simp [Fragment.bindings_join, List.flatMap_map, Operand.items]
  | single other =>
    dsimp only at other ⊢
    rw [if_neg other]
    split <;> simp [Operand.items, Operand.literal]

theorem Condition.bindings_fragment (caps : Capabilities) {c : Condition} (h : c.WellFormed) :
    (c.fragment caps).bindings = c.literals := by
  cases h with
  | predicate hp => exact Predicate.bindings_fragment caps hp
  | @group g _ members =>
    simp only [fragment, Group.fragment, Fragment.bindings_append, Fragment.bindings_raw,
      Fragment.bindings_join, List.flatMap_map, List.nil_append, List.append_nil, literals]
    exact List.flatMap_congr fun p hp => Predicate.bindings_fragment caps (members p hp)

theorem bindings_conditionClause? (caps : Capabilities) (keyword : Text)
    {conditions : List Condition} (h : ∀ c ∈ conditions, c.WellFormed) :
    (conditionClause? caps keyword conditions).toList.flatMap Fragment.bindings =
      conditions.flatMap Condition.literals := by
  unfold conditionClause?
  split
  · next empty => rw [empty]; rfl
  · simp only [Option.toList_some, List.flatMap_singleton, Fragment.bindings_append,
      Fragment.bindings_raw, List.nil_append, Fragment.bindings_join, List.flatMap_map]
    exact List.flatMap_congr fun c hc => Condition.bindings_fragment caps (h c hc)

theorem Fragment.flatMap_bindings_raw (texts : List Text) :
    (texts.map raw).flatMap bindings = [] := by
  simp [List.flatMap_map]

/-- Of the sections of a statement only the two with conditions bind anything. -/
theorem Statement.bindings_sections (caps : Capabilities) (table : Text) {q : Query}
    (h : q.WellFormed) :
    (ofQuery caps table q).sections.flatMap Fragment.bindings =
      q.conditions.flatMap Condition.literals ++ q.having.flatMap Condition.literals := by
  have option : ∀ line : Option Text,
      (line.map Fragment.raw).toList.flatMap Fragment.bindings = [] := by
    intro line
    cases line <;> simp
  have rows : (whereClause? caps q.conditions).toList.flatMap Fragment.bindings =
      q.conditions.flatMap Condition.literals := bindings_conditionClause? caps _ h.conditions
  have groups : (havingClause? caps q.having).toList.flatMap Fragment.bindings =
      q.having.flatMap Condition.literals := bindings_conditionClause? caps _ h.having
  simp only [sections, ofQuery, List.flatMap_append, List.flatMap_singleton, Fragment.bindings_raw,
    Fragment.flatMap_bindings_raw, option, rows, groups, List.nil_append, List.append_nil]

/-- Without question marks in its texts, a fragment has as many of them as it has holes. -/
theorem Fragment.count_sql {f : Fragment} (h : ∀ s, Piece.text s ∈ f → '?' ∉ s) :
    f.sql.count '?' = f.bindings.length := by
  induction f with
  | nil => rfl
  | cons piece rest ih =>
    have hrest := ih fun s hs => h s (List.mem_cons_of_mem piece hs)
    rw [sql, bindings, List.flatMap_cons, List.flatMap_cons, List.count_append, List.length_append,
      ← sql, ← bindings, hrest]
    cases piece with
    | text s =>
      have none : s.count '?' = 0 := List.count_eq_zero.2 (h s (by simp))
      simp [Piece.sql, Piece.bindings, none]
    | hole value => simp [Piece.sql, Piece.bindings, Piece.placeholder]

/-- A compiled statement is one sequence of texts without question marks and holes with values. Its
SQL text has the holes as question marks, its bindings are their values from left to right, and
these are the literals of the parameters in order. -/
theorem Dialect.compile_positional {dialect : Dialect} {table : Text} {p : Params} {c : Compiled}
    (h : dialect.compile table p = .ok c) :
    (∃ tokens : List Piece, (∀ s, Piece.text s ∈ tokens → '?' ∉ s) ∧
        c.sql = tokens.flatMap Piece.sql ∧ c.bindings = tokens.flatMap Piece.bindings) ∧
      c.placeholders = c.bindings.length ∧ c.bindings = p.literals := by
  obtain ⟨valid, accepted, wellFormed, rfl⟩ := exists_of_compile h
  have accepted := Query.refusal?_eq_none_iff.1 accepted
  have written : (Fragment.join ['\n'] (Statement.ofQuery dialect.capabilities table
      (Query.kept p)).sections).Written dialect.capabilities :=
    Fragment.written_join (Text.written_of_all rfl)
      (Statement.written_of_mem_sections dialect.regular valid wellFormed)
  have values : (Fragment.join ['\n'] (Statement.ofQuery dialect.capabilities table
      (Query.kept p)).sections).bindings = p.literals := by
    rw [Fragment.bindings_join, Statement.bindings_sections _ _ wellFormed,
      Query.literals_conditions accepted, Query.literals_having accepted, Params.literals]
  -- From here on only the two facts about the tokens matter, not what they were written for.
  generalize Fragment.join ['\n'] (Statement.ofQuery dialect.capabilities table
    (Query.kept p)).sections = tokens at written values
  have unmarked : ∀ s, Piece.text s ∈ tokens → '?' ∉ s := by
    intro s hs mark
    have allowed := written s hs '?' mark
    rw [dialect.regular.mayWrite_placeholder] at allowed
    cases allowed
  exact ⟨⟨tokens, unmarked, rfl, rfl⟩, Fragment.count_sql unmarked, values⟩

/-- Groups come first and filters on groups of rows last, whatever the order of the keys, and a
question mark in a literal is no placeholder. -/
theorem Dialect.compile_positional_reordered :
    let p := Params.ofPairs [("having.n", "gt.5"), ("a", "in.(x, ,?)"), ("or", "(b.eq.?,c.no.z)")]
    let c : Compiled :=
      ⟨"SELECT * FROM \"t\"\nWHERE (\"b\" = ?) AND \"a\" IN (?, ?)\nHAVING \"n\" > ?",
        ["?", "x", "?", "5"]⟩
    postgres.compile "t" p = .ok c ∧ c.placeholders = 4 ∧ c.bindings = p.literals := by
  intro p c
  have compiled : postgres.compile "t" p = .ok c := by decide +kernel
  obtain ⟨-, placeholders, literals⟩ := compile_positional compiled
  exact ⟨compiled, placeholders, literals⟩

end FilterSql
