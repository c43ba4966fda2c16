/-
# FilterSql.Proofs.Query.Refusals -- exactly when and why a query is refused

Malformed items are ignored, and well-formed items with an unsafe name refuse the query. Where the
line runs is said twice here. `Params.Sound` says it as a property of the parameters, one field for
each kind of item, with the texts of the items taken apart and no word on verdicts or stages.
`Params.faults` lists every fault in the order in which the stages come upon them, so that the first
one is the error. A predicate counts as asked for as soon as its operator is known and its list has
items: only then does its column matter.
-/

import FilterSql.Compile
import FilterSql.Proofs.Statement.Bindings
import FilterSql.Proofs.Text.Cuts

namespace FilterSql

/-! ## Values that ask for a predicate -/

/-- The value `operator.operand` asks for a predicate: the operator is known, and a list has items.
-/
def Asks (value : Text) : Prop :=
  ∃ (operator : Operator) (operand : Text), value = operator.name ++ '.' :: operand ∧
    (operator = .isIn → Text.items (Text.unwrap (Text.trim operand)) ≠ [])

theorem literalsOf_name (operator : Operator) (operand : Text) :
    literalsOf operator.name operand =
      if operator = .isIn then Text.items (Text.unwrap (Text.trim operand)) else [operand] := by
  unfold literalsOf
  rw [Operator.ofName?_name]
  cases operator <;> rfl

/-- A value asks for a predicate when it has literals to bind. -/
theorem asks_iff {value : Text} : Asks value ↔ literalsOfFilter value ≠ [] := by
  constructor
  · rintro ⟨operator, operand, rfl, listed⟩
    rw [literalsOfFilter, cut?_append operand operator.dot_not_mem_name]
    dsimp only
    rw [literalsOf_name]
    split
    · next isIn => exact listed isIn
    · simp
  · intro literals
    unfold literalsOfFilter at literals
    split at literals
    · exact absurd rfl literals
    · next operator operand cut =>
      cases known : Operator.ofName? operator with
      | none => simp [literalsOf, known] at literals
      | some named =>
        have name := Operator.ofName?_eq_some_iff.1 known
        rw [name, literalsOf_name] at literals
        refine ⟨named, operand, ?_, fun isIn => ?_⟩
        · rw [eq_append_of_cut? cut, name, List.append_assoc]
          rfl
        · rwa [if_pos isIn] at literals

instance : DecidablePred Asks := fun _ => decidable_of_iff _ asks_iff.symm

/-! ## Sound parameters -/

/-- Every item that is well formed names what is safe to write. -/
structure Params.Sound (p : Params) : Prop where
  /-- The column of a term `column.operator.operand` that asks for a predicate. -/
  groups : ∀ value ∈ p.values Directive.or.key ++ p.values Directive.and.key,
    ∀ term ∈ Text.terms (Text.unwrap (Text.trim value)), ∀ column rest : Text,
      term = column ++ '.' :: rest → '.' ∉ column → Asks rest → isIdentifier column = true
  /-- The table and the operands of a join with two or more operands, none of them blank. -/
  joins : ∀ value ∈ p.values Directive.join.key, ∀ table on : Text,
    cut? Join.onMark value = some (table, on) → 2 ≤ (on.splitOn '=').length →
      (∀ operand ∈ on.splitOn '=', Text.trim operand ≠ []) →
        isIdentifier (Text.trim table) = true ∧
          ∀ operand ∈ on.splitOn '=', isIdentifier (Text.trim operand) = true
  /-- An entry of the select list: a star, an expression, or a column. -/
  projection : ∀ value ∈ p.values Directive.select.key, ∀ piece ∈ Text.terms value,
    piece = ['*'] ∨ Projection.isPassthrough piece = true ∧ isExpression piece = true ∨
      Projection.isPassthrough piece = false ∧ isIdentifier piece = true
  /-- The last column to order by, unless it is blank. -/
  order : ∀ value ∈ p.last? Directive.orderBy.key,
    Text.trim value = [] ∨ isIdentifier (Text.trim value) = true
  /-- The columns to group by. -/
  grouping : ∀ value ∈ p.values Directive.groupBy.key, ∀ column ∈ Text.items value,
    isIdentifier column = true
  /-- The column of a filter on groups of rows of which some value asks for a predicate. -/
  having : ∀ entry ∈ p.entries, ∀ column : Text, Directive.ofKey entry.1 = .having column →
    (∃ value ∈ entry.2, Asks value) → isIdentifier column = true
  /-- The column of a filter on rows of which some value asks for a predicate. -/
  filters : ∀ entry ∈ p.entries, ∀ column : Text, Directive.ofKey entry.1 = .filter column →
    (∃ value ∈ entry.2, Asks value) → isIdentifier column = true

/-! ## Faults -/

/-- The fault of a text that has to be an identifier. -/
def faultsOfName (name : Text) : List QueryError :=
  if isIdentifier name then [] else [.invalidIdentifier name]

/-- The fault of a filter on a column. -/
def faultsOfFilter (column value : Text) : List QueryError :=
  if Asks value then faultsOfName column else []

/-- The fault of a term of a group. -/
def faultsOfTerm (term : Text) : List QueryError :=
  match cut? ['.'] term with
  | none => []
  | some (column, value) => faultsOfFilter column value

/-- The faults of a join, its table before its operands. -/
def faultsOfJoin (value : Text) : List QueryError :=
  match cut? Join.onMark value with
  | none => []
  | some (table, on) =>
    if 2 ≤ (on.splitOn '=').length ∧ ∀ operand ∈ on.splitOn '=', Text.trim operand ≠ [] then
      (Text.trim table :: (on.splitOn '=').map Text.trim).flatMap faultsOfName
    else []

/-- The fault of an entry of the select list. -/
def faultsOfPiece (piece : Text) : List QueryError :=
  if piece = ['*'] then []
  else if Projection.isPassthrough piece then
    if isExpression piece then [] else [.invalidExpression piece]
  else faultsOfName piece

namespace Params

/-- The faults of the values of all keys of which a column is picked, key by key. -/
def columnFaults (p : Params) (pick : Directive → Option Text) : List QueryError :=
  p.entries.flatMap fun entry =>
    (pick (Directive.ofKey entry.1)).toList.flatMap fun column =>
      entry.2.flatMap (faultsOfFilter column)

/-- The faults that a stage comes upon. -/
def stageFaults (p : Params) : Stage → List QueryError
  | .groups =>
    (p.values Directive.or.key ++ p.values Directive.and.key).flatMap fun value =>
      (Text.terms (Text.unwrap (Text.trim value))).flatMap faultsOfTerm
  | .joins => (p.values Directive.join.key).flatMap faultsOfJoin
  | .projection => ((p.values Directive.select.key).flatMap Text.terms).flatMap faultsOfPiece
  | .window => []
  | .order =>
    (((p.last? Directive.orderBy.key).map Text.trim).filter (· ≠ [])).toList.flatMap faultsOfName
  | .grouping => ((p.values Directive.groupBy.key).flatMap Text.items).flatMap faultsOfName
  | .having => p.columnFaults Directive.groupColumn?
  | .filters => p.columnFaults Directive.rowColumn?

/-- All faults of parameters: those of groups, joins, the select list, the ordering, the grouping,
filters on groups of rows and filters on rows, whatever the order of the keys. -/
def faults (p : Params) : List QueryError :=
  p.stageFaults .groups ++ p.stageFaults .joins ++ p.stageFaults .projection ++
    p.stageFaults .order ++ p.stageFaults .grouping ++ p.stageFaults .having ++
    p.stageFaults .filters

end Params

/-! ## No faults -/

theorem faultsOfName_eq_nil_iff {name : Text} :
    faultsOfName name = [] ↔ isIdentifier name = true := by
  simp [faultsOfName]

theorem faultsOfFilter_eq_nil_iff {column value : Text} :
    faultsOfFilter column value = [] ↔ (Asks value → isIdentifier column = true) := by
  unfold faultsOfFilter
  split
  · next asks => simp [asks, faultsOfName_eq_nil_iff]
  · next silent => simp [silent]

theorem faultsOfTerm_eq_nil_iff {term : Text} :
    faultsOfTerm term = [] ↔ ∀ column rest : Text, term = column ++ '.' :: rest →
      '.' ∉ column → Asks rest → isIdentifier column = true := by
  have parts : ∀ column rest : Text, '.' ∉ column → term = column ++ '.' :: rest →
      cut? ['.'] term = some (column, rest) := by
    rintro column rest undotted rfl
    exact cut?_append rest undotted
  unfold faultsOfTerm
  split
  · next uncut =>
    refine iff_of_true rfl fun column rest same undotted => ?_
    rw [parts column rest undotted same] at uncut
    cases uncut
  · next column rest cut =>
    rw [faultsOfFilter_eq_nil_iff]
    constructor
    · intro sound column' rest' same undotted
      rw [parts column' rest' undotted same] at cut
      cases cut
      exact sound
    · intro sound
      refine sound column rest ?_ (not_mem_of_cut? cut)
      simpa using eq_append_of_cut? cut

theorem faultsOfJoin_eq_nil_iff {value : Text} :
    faultsOfJoin value = [] ↔ ∀ table on : Text, cut? Join.onMark value = some (table, on) →
      2 ≤ (on.splitOn '=').length → (∀ operand ∈ on.splitOn '=', Text.trim operand ≠ []) →
        isIdentifier (Text.trim table) = true ∧
          ∀ operand ∈ on.splitOn '=', isIdentifier (Text.trim operand) = true := by
  unfold faultsOfJoin
  split
  · next uncut => simp [uncut]
  · next table on cut =>
    simp only [cut, Option.some.injEq, Prod.mk.injEq]
    split
    · next complete =>
      rw [List.flatMap_eq_nil_iff, List.forall_mem_cons, List.forall_mem_map]
      simp only [faultsOfName_eq_nil_iff]
      constructor
      · rintro valid table' on' ⟨rfl, rfl⟩ - -
        exact valid
      · exact fun valid => valid table on ⟨rfl, rfl⟩ complete.1 complete.2
    · next incomplete =>
      refine iff_of_true rfl ?_
      rintro table' on' ⟨rfl, rfl⟩ two filled
      exact absurd ⟨two, filled⟩ incomplete

theorem faultsOfPiece_eq_nil_iff {piece : Text} :
    faultsOfPiece piece = [] ↔ piece = ['*'] ∨
      Projection.isPassthrough piece = true ∧ isExpression piece = true ∨
        Projection.isPassthrough piece = false ∧ isIdentifier piece = true := by
  unfold faultsOfPiece
  by_cases star : piece = ['*']
  · simp [star]
  · cases passthrough : Projection.isPassthrough piece with
    | true => simp [star]
    | false => simp [star, faultsOfName_eq_nil_iff]

theorem Params.columnFaults_eq_nil_iff {p : Params} {pick : Directive → Option Text} :
    p.columnFaults pick = [] ↔ ∀ entry ∈ p.entries, ∀ column : Text,
      pick (Directive.ofKey entry.1) = some column → (∃ value ∈ entry.2, Asks value) →
        isIdentifier column = true := by
  simp only [columnFaults, List.flatMap_eq_nil_iff, Option.mem_toList,
    faultsOfFilter_eq_nil_iff, forall_exists_index, and_imp]

/-- Parameters are sound when they have no fault. -/
theorem Params.faults_eq_nil_iff {p : Params} : p.faults = [] ↔ p.Sound := by
  have order : p.stageFaults .order = [] ↔ ∀ value ∈ p.last? Directive.orderBy.key,
      Text.trim value = [] ∨ isIdentifier (Text.trim value) = true := by
    rw [stageFaults]
    cases p.last? Directive.orderBy.key with
    | none => simp
    | some value =>
      by_cases blank : Text.trim value = [] <;> simp [blank, faultsOfName_eq_nil_iff]
  simp only [faults, List.append_eq_nil_iff, order]
  simp only [stageFaults, List.flatMap_eq_nil_iff, faultsOfTerm_eq_nil_iff,
    faultsOfJoin_eq_nil_iff, faultsOfPiece_eq_nil_iff, faultsOfName_eq_nil_iff,
    columnFaults_eq_nil_iff, Directive.groupColumn?_eq_some_iff, Directive.rowColumn?_eq_some_iff,
    List.forall_mem_flatMap]
  constructor
  · rintro ⟨⟨⟨⟨⟨⟨groups, joins⟩, projection⟩, order⟩, grouping⟩, having⟩, filters⟩
    exact ⟨groups, joins, projection, order, grouping, having, filters⟩
  · rintro ⟨groups, joins, projection, order, grouping, having, filters⟩
    exact ⟨⟨⟨⟨⟨⟨groups, joins⟩, projection⟩, order⟩, grouping⟩, having⟩, filters⟩

/-! ## The first fault -/

namespace Verdict

variable {α β : Type}

theorem refusal?_ofExcept_checkIdentifier (column : Text) :
    (ofExcept (checkIdentifier column)).refusal? = (faultsOfName column).head? := by
  unfold checkIdentifier faultsOfName
  split <;> rfl

/-- The first refusal among several lists is that of the first list with one. -/
theorem refusalOf?_flatMap (verdicts : α → List (Verdict β)) (items : List α) :
    refusalOf? (items.flatMap verdicts) =
      items.findSome? fun item => refusalOf? (verdicts item) := by
  induction items with
  | nil => rfl
  | cons item rest ih =>
    rw [List.flatMap_cons, refusalOf?_append, ih, List.findSome?_cons]
    cases refusalOf? (verdicts item) <;> rfl

/-- The first refusal is the first fault once this is so for each single item. -/
theorem refusalOf?_map_eq_head? {judge : α → Verdict β} {faults : α → List QueryError}
    (h : ∀ item, (judge item).refusal? = (faults item).head?) (items : List α) :
    refusalOf? (items.map judge) = (items.flatMap faults).head? := by
  rw [refusalOf?, List.findSome?_map, List.head?_flatMap]
  exact congrArg (List.findSome? · items) (funext h)

end Verdict

/-- The column matters only when the operator is known and a list has items. -/
theorem Predicate.refusal?_judge (column operator operand : Text) :
    (judge column operator operand).refusal? =
      if literalsOf operator operand = [] then none else (faultsOfName column).head? := by
  unfold judge
  cases known : Operator.ofName? operator with
  | none => simp [literalsOf, known, Verdict.refusal?]
  | some named =>
    rw [Operator.ofName?_eq_some_iff.1 known, literalsOf_name]
    dsimp only
    cases read : Operand.ofText? named operand with
    | none =>
      obtain ⟨rfl, empty⟩ := Operand.ofText?_eq_none_iff.1 read
      simp [empty, Verdict.refusal?]
    | some literals =>
      have items := Operand.ofText?_eq_none_iff.not.1 (Option.ne_none_iff_exists'.2 ⟨_, read⟩)
      have some_literal : (if named = .isIn then Text.items (Text.unwrap (Text.trim operand))
          else [operand]) ≠ [] := by
        split
        · next isIn => exact fun empty => items ⟨isIn, empty⟩
        · simp
      rw [if_neg some_literal]
      dsimp only
      rw [Verdict.refusal?_map, Verdict.refusal?_ofExcept_checkIdentifier]

theorem Predicate.refusal?_judgeFilter (column value : Text) :
    (judgeFilter column value).refusal? = (faultsOfFilter column value).head? := by
  unfold judgeFilter faultsOfFilter
  simp only [asks_iff]
  unfold literalsOfFilter
  cases cut? ['.'] value with
  | none => simp [Verdict.refusal?]
  | some halves =>
    dsimp only
    rw [refusal?_judge]
    by_cases silent : literalsOf halves.1 halves.2 = [] <;> simp [silent]

theorem Predicate.refusal?_judgeTerm (term : Text) :
    (judgeTerm term).refusal? = (faultsOfTerm term).head? := by
  unfold judgeTerm faultsOfTerm
  cases cut? ['.'] term with
  | none => rfl
  | some halves =>
    dsimp only
    rw [← refusal?_judgeFilter, judgeFilter]
    cases cut? ['.'] halves.2 <;> rfl

/-- The first fault among names is the first name that is no identifier. -/
theorem head?_flatMap_faultsOfName (names : List Text) :
    (names.flatMap faultsOfName).head? =
      (names.find? fun name => !isIdentifier name).map .invalidIdentifier := by
  induction names with
  | nil => rfl
  | cons name rest ih =>
    rw [List.flatMap_cons, List.head?_append, ih, List.find?_cons, faultsOfName]
    cases isIdentifier name <;> rfl

theorem Join.refusal?_judge (value : Text) :
    (judge value).refusal? = (faultsOfJoin value).head? := by
  unfold judge faultsOfJoin
  cases cut? onMark value with
  | none => rfl
  | some halves =>
    have incomplete : (((halves.2.splitOn '=').map Text.trim).length < 2 ∨
        [] ∈ (halves.2.splitOn '=').map Text.trim) ↔ ¬ (2 ≤ (halves.2.splitOn '=').length ∧
          ∀ operand ∈ halves.2.splitOn '=', Text.trim operand ≠ []) := by
      rw [List.length_map, Classical.not_and_iff_not_or_not, Nat.not_le]
      simp
    dsimp only
    split
    · next skip =>
      rw [if_neg (incomplete.1 skip)]
      rfl
    · next whole =>
      rw [if_pos (Decidable.not_not.1 (mt incomplete.2 whole)), head?_flatMap_faultsOfName]
      split
      · next name found => rw [found]; rfl
      · next allValid => rw [allValid]; rfl

theorem Projection.refusal?_judge (piece : Text) :
    (judge piece).refusal? = (faultsOfPiece piece).head? := by
  unfold judge faultsOfPiece
  split
  · rfl
  · split
    · rw [Verdict.refusal?_map, checkExpression]
      split <;> rfl
    · rw [Verdict.refusal?_map, Verdict.refusal?_ofExcept_checkIdentifier]

theorem Params.refusalOf?_columnVerdicts (p : Params) (pick : Directive → Option Text) :
    Verdict.refusalOf? (p.columnVerdicts pick) = (p.columnFaults pick).head? := by
  rw [columnVerdicts, columnFaults, Verdict.refusalOf?_flatMap, List.head?_flatMap]
  refine congrArg (List.findSome? · p.entries) (funext fun entry => ?_)
  rw [Verdict.refusalOf?_flatMap, List.head?_flatMap]
  refine congrArg (List.findSome? · _) (funext fun column => ?_)
  exact Verdict.refusalOf?_map_eq_head? (Predicate.refusal?_judgeFilter column) entry.2

/-- Terms are judged one by one, whatever group they stand in. -/
theorem Params.flatMap_groupVerdicts (p : Params) :
    p.groupVerdicts.flatMap Prod.snd =
      ((p.values Directive.or.key ++ p.values Directive.and.key).flatMap fun value =>
        Text.terms (Text.unwrap (Text.trim value))).map Predicate.judgeTerm := by
  simp only [groupVerdicts, groups, List.map_append, List.map_map, List.flatMap_append,
    List.flatMap_map, List.map_flatMap]
  rfl

theorem Params.refusalOf?_groupVerdicts (p : Params) :
    Verdict.refusalOf? (p.groupVerdicts.flatMap Prod.snd) = (p.stageFaults .groups).head? := by
  rw [flatMap_groupVerdicts, Verdict.refusalOf?_map_eq_head? Predicate.refusal?_judgeTerm,
    stageFaults, List.flatMap_assoc]

/-- A stage refuses the query for its first fault. -/
theorem Stage.refusal?_eq_head? (p : Params) (stage : Stage) :
    stage.refusal? p = (p.stageFaults stage).head? := by
  unfold refusal?
  cases stage with
  | groups =>
    rw [verdicts, Verdict.refusalOf?_map]
    exact p.refusalOf?_groupVerdicts
  | joins =>
    rw [verdicts, Verdict.refusalOf?_map]
    exact Verdict.refusalOf?_map_eq_head? Join.refusal?_judge _
  | projection =>
    rw [verdicts, Verdict.refusalOf?_map]
    exact Verdict.refusalOf?_map_eq_head? Projection.refusal?_judge _
  | window => exact refusal?_window p
  | order =>
    rw [verdicts, Verdict.refusalOf?_map]
    refine Verdict.refusalOf?_map_eq_head? (fun column => ?_) _
    rw [SortKey.judge, Verdict.refusal?_map, Verdict.refusal?_ofExcept_checkIdentifier]
  | grouping =>
    rw [verdicts, Verdict.refusalOf?_map]
    exact Verdict.refusalOf?_map_eq_head? Verdict.refusal?_ofExcept_checkIdentifier _
  | having =>
    rw [verdicts, Verdict.refusalOf?_map, Params.havingVerdicts_eq]
    exact p.refusalOf?_columnVerdicts _
  | filters =>
    rw [verdicts, Verdict.refusalOf?_map, Params.filterVerdicts_eq]
    exact p.refusalOf?_columnVerdicts _

/-- Parameters are refused for their first fault. -/
theorem Query.refusal?_eq_head?_faults (p : Params) : refusal? p = p.faults.head? := by
  have stages : p.faults = Stage.all.flatMap p.stageFaults := by
    simp [Params.faults, Stage.all, Params.stageFaults]
  rw [refusal?, stages, List.head?_flatMap]
  exact congrArg (List.findSome? · Stage.all) (funext fun stage => stage.refusal?_eq_head? p)

/-! ## Outcomes of a compilation -/

/-- A statement comes out when neither the table nor the parameters have a fault, and otherwise the
first fault, that of the table before all others. -/
theorem Dialect.compile_eq_error_iff_head? {dialect : Dialect} {table : Text} {p : Params}
    {e : QueryError} :
    dialect.compile table p = .error e ↔ (faultsOfName table ++ p.faults).head? = some e := by
  rw [compile_eq_error_iff, Query.ofParams_eq_error_iff, Query.refusal?_eq_head?_faults,
    faultsOfName]
  cases isIdentifier table <;> simp [eq_comm]

theorem Dialect.exists_compile_iff {dialect : Dialect} {table : Text} {p : Params} :
    (∃ c, dialect.compile table p = .ok c) ↔ isIdentifier table = true ∧ p.Sound := by
  have read : (∃ q, Query.ofParams p = .ok q) ↔ p.Sound := by
    simp only [Query.ofParams_eq_ok_iff, Query.refusal?_eq_head?_faults, List.head?_eq_none_iff,
      Params.faults_eq_nil_iff, exists_and_left, exists_eq, and_true]
  rw [← read]
  simp only [compile_eq_ok_iff]
  constructor
  · rintro ⟨c, valid, q, ok, -⟩
    exact ⟨valid, q, ok⟩
  · rintro ⟨valid, q, ok⟩
    exact ⟨_, valid, q, ok, rfl⟩

theorem compile_of_ofName? {table name : Text} {p : Params} {dialect : Dialect}
    (h : Dialect.ofName? name = some dialect) : compile table p name = dialect.compile table p := by
  simp [compile, Dialect.ofName, h, bind, Except.bind]

/-- Exactly when and why nothing is compiled. A dialect that is not known is reported by its name as
given, whatever the rest. Under a known one a statement comes out precisely when the table is an
identifier and the parameters are sound, and otherwise the error is the first fault: the table comes
first, then the parameters in the order of their stages. -/
theorem compile_outcome (table : Text) (p : Params) (name : Text) :
    (Dialect.ofName? name = none → compile table p name = .error (.unsupportedDialect name)) ∧
      ∀ dialect : Dialect, Dialect.ofName? name = some dialect →
        ((∃ c, compile table p name = .ok c) ↔ isIdentifier table = true ∧ p.Sound) ∧
          ∀ e : QueryError, compile table p name = .error e ↔
            (faultsOfName table ++ p.faults).head? = some e := by
  refine ⟨fun unknown => ?_, fun dialect known => ?_⟩
  · simp [compile, Dialect.ofName, unknown, bind, Except.bind]
  · rw [compile_of_ofName? known]
    exact ⟨Dialect.exists_compile_iff, fun e => Dialect.compile_eq_error_iff_head?⟩

/-- Unsafe names in items that are malformed are no fault, and the operand of a join is reported
before the select list and the filter that were given first. -/
theorem compile_outcome_ordered :
    let malformed := Params.ofPairs [("a b", "no.1"), ("c d", "in.( ,)"), ("or", "(e f.eq,g.eq.1)"),
      ("join", "h i:on=j"), ("limit", "k")]
    let faulty := Params.ofPairs [("a b", "eq.1"), ("select", "sum(x"), ("join", "t:on=l=r s")]
    (Dialect.ofName? "oracle" = none ∧
        compile "1" faulty "oracle" = .error (.unsupportedDialect "oracle")) ∧
      Dialect.ofName? "pg" = some .postgres ∧ malformed.Sound ∧
        (∃ c, compile "t" malformed "pg" = .ok c) ∧
        compile "t" faulty "pg" = .error (.invalidIdentifier "r s") := by
  intro malformed faulty
  have unknown : Dialect.ofName? "oracle" = none := by decide +kernel
  have known : Dialect.ofName? "pg" = some .postgres := by decide +kernel
  have sound : malformed.Sound := Params.faults_eq_nil_iff.1 (by decide +kernel)
  have first : (faultsOfName "t" ++ faulty.faults).head? = some (.invalidIdentifier "r s") := by
    decide +kernel
  refine ⟨⟨unknown, (compile_outcome "1" faulty "oracle").1 unknown⟩, known, sound, ?_, ?_⟩
  · exact (((compile_outcome "t" malformed "pg").2 _ known).1).2 ⟨by decide, sound⟩
  · exact (((compile_outcome "t" faulty "pg").2 _ known).2 _).2 first

end FilterSql
