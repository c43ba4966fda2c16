/-
# FilterSql.Proofs.Trace.Accounting -- nothing is dropped without a line in the trace

A stage goes through its items one by one. A `Ledger` says what becomes of them: each is kept, and
stands at its place among what the stage contributes to the query, or it is skipped, and stands at
its place among the reasons that the trace gives. Nothing stands in neither list and nothing in
both, so the lengths of the two add up to the number of items.

Where parameters ask for a query, every stage keeps such a ledger of all of its items, with the
parts of that query on the one side and the events between its announcement and the next on the
other. A stage that refuses the query breaks off, and then there is no statement to be reported.

An event can be told from what is written of it, its level, its wording and its fields, so a trace
that is written down still says all of this.
-/

import FilterSql.Proofs.Query.Guarantees
import FilterSql.Proofs.Query.Refusals
import FilterSql.Trace

namespace FilterSql

/-! ## Ledgers -/

/-- Items gone through in order, each of them kept or skipped for a reason. -/
inductive Ledger {α β : Type} (judge : α → Verdict β) : List α → List β → List Skip → Prop where
  /-- Nothing is given. -/
  | nil : Ledger judge [] [] []
  /-- The first item is kept. -/
  | kept {item : α} {product : β} {items : List α} {products : List β} {reasons : List Skip} :
      judge item = .kept product → Ledger judge items products reasons →
        Ledger judge (item :: items) (product :: products) reasons
  /-- The first item is skipped. -/
  | skipped {item : α} {reason : Skip} {items : List α} {products : List β}
      {reasons : List Skip} :
      judge item = .skipped reason → Ledger judge items products reasons →
        Ledger judge (item :: items) products (reason :: reasons)

namespace Ledger

variable {α β : Type} {judge : α → Verdict β} {items : List α} {products : List β}
  {reasons : List Skip}

/-- What was skipped and what was kept add up to what was given. -/
theorem length_add (h : Ledger judge items products reasons) :
    reasons.length + products.length = items.length := by
  induction h with
  | nil => rfl
  | kept _ _ ih => simp only [List.length_cons]; omega
  | skipped _ _ ih => simp only [List.length_cons]; omega

/-- There are no reasons where no item is ever skipped. -/
theorem reasons_eq_nil (h : Ledger judge items products reasons)
    (firm : ∀ item reason, judge item ≠ .skipped reason) : reasons = [] := by
  induction h with
  | nil => rfl
  | kept _ _ ih => exact ih
  | skipped judged => exact absurd judged (firm _ _)

/-- Items that do not refuse the query are kept or skipped. -/
theorem of_refusalOf?_eq_none (h : Verdict.refusalOf? (items.map judge) = none) :
    Ledger judge items (Verdict.keptOf (items.map judge))
      (Verdict.skipsOf (items.map judge)) := by
  rw [Verdict.refusalOf?_eq_none_iff, List.forall_mem_map] at h
  induction items with
  | nil => exact .nil
  | cons item rest ih =>
    obtain ⟨first, others⟩ := List.forall_mem_cons.1 h
    cases judged : judge item with
    | kept product =>
      simp only [List.map_cons, judged, Verdict.skipsOf, Verdict.keptOf,
        List.filterMap_cons_some (show (Verdict.kept product).kept? = some product from rfl)]
      exact .kept judged (ih others)
    | skipped reason =>
      simp only [List.map_cons, judged, Verdict.skipsOf, Verdict.keptOf,
        List.filterMap_cons_none (show (Verdict.skipped reason : Verdict β).kept? = none from rfl)]
      exact .skipped judged (ih others)
    | refused error =>
      rw [judged] at first
      cases first

end Ledger

theorem Verdict.skipsOf_map {α β : Type} (f : α → β) (verdicts : List (Verdict α)) :
    skipsOf (verdicts.map (map f)) = skipsOf verdicts := by
  induction verdicts with
  | nil => rfl
  | cons v rest ih => cases v <;> simp [map, skipsOf, ih]

theorem Verdict.keptOf_map {α β : Type} (f : α → β) (verdicts : List (Verdict α)) :
    keptOf (verdicts.map (map f)) = (keptOf verdicts).map f := by
  rw [keptOf, keptOf, List.filterMap_map, List.map_filterMap]
  exact List.filterMap_congr fun v _ => by cases v <;> rfl

/-! ## What is given to a stage -/

namespace Params

/-- The terms of every group of alternatives, then those of every group of demands. -/
def groupTerms (p : Params) : List Text :=
  (p.values Directive.or.key ++ p.values Directive.and.key).flatMap fun value =>
    Text.terms (Text.unwrap (Text.trim value))

/-- The last limit and the last offset, with their keys. -/
def counts (p : Params) : List (Text × Text) :=
  [Directive.limit.key, Directive.offset.key].flatMap fun key =>
    (p.last? key).toList.map fun value => (key, value)

/-- The last sort column, unless it is blank. -/
def sortColumns (p : Params) : List Text :=
  (((p.last? Directive.orderBy.key).map Text.trim).filter (· ≠ [])).toList

/-- Every value under a key of which a column is picked, with that column. -/
def columnValues (p : Params) (pick : Directive → Option Text) : List (Text × Text) :=
  p.pairs.filterMap fun pair =>
    (pick (Directive.ofKey pair.1)).map fun column => (column, pair.2)

theorem countVerdicts_eq (p : Params) :
    p.countVerdicts Directive.limit.key ++ p.countVerdicts Directive.offset.key =
      p.counts.map fun count => Count.judge count.1 count.2 := by
  simp only [counts, countVerdicts, List.flatMap_cons, List.flatMap_nil, List.append_nil,
    List.map_append, List.map_map]
  rfl

theorem columnVerdicts_eq_columnValues (p : Params) (pick : Directive → Option Text) :
    p.columnVerdicts pick = (p.columnValues pick).map fun value =>
      Predicate.judgeFilter value.1 value.2 := by
  rw [columnVerdicts_eq_pairs, columnValues, List.map_filterMap,
    List.filterMap_eq_flatMap_toList]
  refine List.flatMap_congr fun pair _ => ?_
  cases pick (Directive.ofKey pair.1) <;> rfl

end Params

/-! ## What a stage contributes -/

/-- The members of a group, none of a single predicate. -/
def Condition.members : Condition → List Predicate
  | predicate _ => []
  | group g => g.members

/-- Is the condition a single predicate? -/
def Condition.isSingle : Condition → Bool
  | predicate _ => true
  | group _ => false

/-- A filter on a column, as a condition. -/
def Condition.judge (value : Text × Text) : Verdict Condition :=
  (Predicate.judgeFilter value.1 value.2).map .predicate

/-- The counts of a window. -/
def Window.counts (w : Window) : List Count := w.limit.toList ++ w.offset.toList

namespace Query

/-- A group without members contributes none, so it does not matter that it is left out. -/
theorem flatMap_members_keptGroups (p : Params) :
    (keptGroups p).flatMap Condition.members =
      Verdict.keptOf (p.groupVerdicts.flatMap Prod.snd) := by
  rw [keptGroups_eq]
  induction p.groupVerdicts with
  | nil => rfl
  | cons group rest ih =>
    rw [List.flatMap_cons, Verdict.keptOf_append, ← ih]
    by_cases empty : Verdict.keptOf group.2 = []
    · have none : groupCondition? group = none := if_pos empty
      rw [List.filterMap_cons_none none, empty, List.nil_append]
    · have some : groupCondition? group = some (.group ⟨group.1, Verdict.keptOf group.2⟩) :=
        if_neg empty
      rw [List.filterMap_cons_some some, List.flatMap_cons]
      rfl

theorem isSingle_of_mem_keptGroups {p : Params} {c : Condition} (h : c ∈ keptGroups p) :
    c.isSingle = false := by
  rw [keptGroups_eq, List.mem_filterMap] at h
  obtain ⟨group, -, h⟩ := h
  unfold groupCondition? at h
  split at h
  · cases h
  · cases h
    rfl

/-- The members of the groups are the terms that were kept. -/
theorem flatMap_members_kept (p : Params) :
    (kept p).conditions.flatMap Condition.members =
      Verdict.keptOf (p.groupTerms.map Predicate.judgeTerm) := by
  have singles : ((Verdict.keptOf p.filterVerdicts).map Condition.predicate).flatMap
      Condition.members = [] := by
    simp [List.flatMap_map, Condition.members]
  rw [kept, List.flatMap_append, singles, List.append_nil, flatMap_members_keptGroups,
    Params.flatMap_groupVerdicts, Params.groupTerms]

/-- The single predicates among the conditions are the filters that were kept. -/
theorem filter_isSingle_kept (p : Params) :
    (kept p).conditions.filter Condition.isSingle =
      (Verdict.keptOf p.filterVerdicts).map .predicate := by
  have groups : (keptGroups p).filter Condition.isSingle = [] := by
    rw [List.filter_eq_nil_iff]
    intro c hc
    simp [isSingle_of_mem_keptGroups hc]
  have singles : ((Verdict.keptOf p.filterVerdicts).map Condition.predicate).filter
      Condition.isSingle = (Verdict.keptOf p.filterVerdicts).map .predicate := by
    rw [List.filter_eq_self, List.forall_mem_map]
    exact fun _ _ => rfl
  rw [kept, List.filter_append, groups, singles, List.nil_append]

end Query

/-! ## The ledger of a stage -/

namespace Stage

/-- The ledger of a stage: what is given to it, what it contributes to the query and why it skips
the rest. -/
def Accounts (p : Params) (q : Query) (reasons : List Skip) : Stage → Prop
  | groups =>
    Ledger Predicate.judgeTerm p.groupTerms (q.conditions.flatMap Condition.members) reasons
  | joins => Ledger Join.judge (p.values Directive.join.key) q.joins reasons
  | projection =>
    Ledger Projection.judge ((p.values Directive.select.key).flatMap Text.terms) q.projection
      reasons
  | window => Ledger (fun count => Count.judge count.1 count.2) p.counts q.window.counts reasons
  | order => Ledger (SortKey.judge · p.direction) p.sortColumns q.order.toList reasons
  | grouping =>
    Ledger (fun column => Verdict.ofExcept (checkIdentifier column))
      ((p.values Directive.groupBy.key).flatMap Text.items) q.grouping reasons
  | having => Ledger Condition.judge (p.columnValues Directive.groupColumn?) q.having reasons
  | filters =>
    Ledger Condition.judge (p.columnValues Directive.rowColumn?)
      (q.conditions.filter Condition.isSingle) reasons

/-- How many items are given to a stage. -/
def given (p : Params) : Stage → Nat
  | groups => p.groupTerms.length
  | joins => (p.values Directive.join.key).length
  | projection => ((p.values Directive.select.key).flatMap Text.terms).length
  | window => p.counts.length
  | order => p.sortColumns.length
  | grouping => ((p.values Directive.groupBy.key).flatMap Text.items).length
  | having => (p.columnValues Directive.groupColumn?).length
  | filters => (p.columnValues Directive.rowColumn?).length

/-- How many items of a stage are part of the query. -/
def emitted (q : Query) : Stage → Nat
  | groups => (q.conditions.flatMap Condition.members).length
  | joins => q.joins.length
  | projection => q.projection.length
  | window => q.window.counts.length
  | order => q.order.toList.length
  | grouping => q.grouping.length
  | having => q.having.length
  | filters => (q.conditions.filter Condition.isSingle).length

variable {p : Params} {q : Query} {stage : Stage} {reasons : List Skip}

/-- What a stage skips and what it contributes add up to what it is given. -/
theorem length_add_emitted (h : stage.Accounts p q reasons) :
    reasons.length + stage.emitted q = stage.given p := by
  cases stage <;> exact Ledger.length_add h

/-- The stages of the select list, the ordering and the grouping skip nothing. -/
theorem reasons_eq_nil (h : stage.Accounts p q reasons)
    (firm : stage ∈ [projection, order, grouping]) : reasons = [] := by
  have checked : ∀ {α β : Type} (r : Except QueryError α) (f : α → β) (reason : Skip),
      (Verdict.ofExcept r).map f ≠ .skipped reason := by
    intro α β r f reason
    cases r <;> exact fun h => by cases h
  cases stage with
  | projection =>
    refine Ledger.reasons_eq_nil h fun piece reason => ?_
    unfold Projection.judge
    split
    · exact fun h => by cases h
    · split
      · exact checked _ _ _
      · exact checked _ _ _
  | order => exact Ledger.reasons_eq_nil h fun column reason => checked _ _ _
  | grouping =>
    refine Ledger.reasons_eq_nil h fun column reason => ?_
    cases checkIdentifier column <;> exact fun h => by cases h
  | _ => simp at firm

/-- A stage that refuses nothing keeps a ledger of its items, however they are judged. -/
theorem ledger {α β : Type} {judge : α → Verdict β} {items : List α}
    (verdicts : stage.verdicts p = (items.map judge).map (.map fun _ => ()))
    (accepted : stage.refusal? p = none) :
    Ledger judge items (Verdict.keptOf (items.map judge)) (stage.skips p) := by
  rw [refusal?, verdicts, Verdict.refusalOf?_map] at accepted
  rw [skips, verdicts, Verdict.skipsOf_map]
  exact .of_refusalOf?_eq_none accepted

theorem refusal?_of_ofParams (h : Query.ofParams p = .ok q) (stage : Stage) :
    stage.refusal? p = none := by
  obtain ⟨accepted, -⟩ := Query.ofParams_eq_ok_iff.1 h
  exact List.findSome?_eq_none_iff.1 accepted stage stage.mem_all

/-- Where parameters ask for a query, every stage accounts for all of its items. -/
theorem accounts_skips (h : Query.ofParams p = .ok q) (stage : Stage) :
    stage.Accounts p q (stage.skips p) := by
  have accepted := refusal?_of_ofParams h stage
  have window := Query.window_of_ofParams h
  have order := Query.order_of_ofParams h
  obtain ⟨unrefused, rfl⟩ := Query.ofParams_eq_ok_iff.1 h
  have conditions : ∀ pick : Directive → Option Text,
      (p.columnValues pick).map Condition.judge =
        (p.columnVerdicts pick).map (.map .predicate) := by
    intro pick
    rw [Params.columnVerdicts_eq_columnValues, List.map_map]
    rfl
  cases stage with
  | groups =>
    unfold Accounts
    rw [Query.flatMap_members_kept]
    refine ledger ?_ accepted
    rw [verdicts, Params.flatMap_groupVerdicts, Params.groupTerms]
  | joins => exact ledger rfl accepted
  | projection => exact ledger rfl accepted
  | window =>
    unfold Accounts
    have counts : (Query.kept p).window.counts =
        Verdict.keptOf (p.counts.map fun count => Count.judge count.1 count.2) := by
      rw [← Params.countVerdicts_eq, Verdict.keptOf_append, Params.keptOf_countVerdicts,
        Params.keptOf_countVerdicts, window]
      rfl
    rw [counts]
    refine ledger ?_ accepted
    rw [verdicts, Params.countVerdicts_eq]
  | order =>
    unfold Accounts
    have kept : Verdict.keptOf p.orderVerdicts = p.sortKey?.toList :=
      Params.keptOf_orderVerdicts (Query.refusal?_eq_none_iff.1 unrefused).order
    rw [order, ← kept]
    exact ledger rfl accepted
  | grouping => exact ledger rfl accepted
  | having =>
    unfold Accounts
    have kept : (Query.kept p).having =
        Verdict.keptOf ((p.columnValues Directive.groupColumn?).map Condition.judge) := by
      rw [conditions, Verdict.keptOf_map, ← Params.havingVerdicts_eq]
      rfl
    rw [kept]
    refine ledger ?_ accepted
    rw [verdicts, conditions, Params.havingVerdicts_eq, List.map_map]
    exact List.map_congr_left fun v _ => by cases v <;> rfl
  | filters =>
    unfold Accounts
    rw [Query.filter_isSingle_kept, Params.filterVerdicts_eq, ← Verdict.keptOf_map, ← conditions]
    refine ledger ?_ accepted
    rw [verdicts, conditions, Params.filterVerdicts_eq, List.map_map]
    exact List.map_congr_left fun v _ => by cases v <;> rfl

end Stage

/-! ## What is written tells the event -/

/-- The reasons for skipping that name the given texts. -/
def Skip.naming : List Text → List Skip
  | [a] => [termWithoutOperator a, termWithoutValue a, joinWithoutOn a, joinIncomplete a]
  | [a, b] => [unknownOperator a b, emptyList a b, unparseableCount a b, filterWithoutOperator a b]
  | _ => []

theorem Skip.mem_naming (reason : Skip) : reason ∈ naming (reason.fields.map Prod.snd) := by
  cases reason <;> simp [fields, naming]

/-- No two reasons that name the same texts have one wording. -/
theorem Skip.nodup_message_naming (texts : List Text) : ((naming texts).map message).Nodup := by
  -- No wording depends on the texts, so each list of wordings is a closed one.
  match texts with
  | [] => exact List.nodup_nil
  | [a] =>
    have closed : ((naming [[]]).map message).Nodup := by decide +kernel
    exact closed
  | [a, b] =>
    have closed : ((naming [[], []]).map message).Nodup := by decide +kernel
    exact closed
  | _ :: _ :: _ :: _ => exact List.nodup_nil

/-- The wording and the texts that it names determine the reason. -/
theorem Skip.eq_of_written {a b : Skip} (message : a.message = b.message)
    (fields : a.fields = b.fields) : a = b := by
  have other : b ∈ naming (a.fields.map Prod.snd) := fields ▸ b.mem_naming
  exact List.inj_on_of_nodup_map (nodup_message_naming _) a.mem_naming other message

theorem Skip.take_message (reason : Skip) : reason.message.take 8 = "skipping" := by
  cases reason <;> rfl

theorem Skip.message_ne_parsing (reason : Skip) (stage : Stage) :
    reason.message ≠ (Event.parsing stage).message := by
  intro h
  have start : "parsing directive".toList.take 8 = "skipping" :=
    (congrArg (List.take 8) h).symm.trans reason.take_message
  exact absurd start (by decide)

theorem Stage.label_injective : Function.Injective label := by
  intro a b h
  have labels : (Stage.all.map label).Nodup := by decide
  exact List.inj_on_of_nodup_map labels a.mem_all b.mem_all h

/-- An event can be told from what is written of it: its level, its wording and its fields. -/
theorem Event.eq_of_written {e e' : Event} (level : e.level = e'.level)
    (message : e.message = e'.message) (fields : e.fields = e'.fields) : e = e' := by
  -- The level tells a complete statement from the rest, the wording a stage from an item.
  cases e with
  | parsing stage =>
    cases e' with
    | parsing stage' =>
      have label : stage.label = stage'.label := by simpa [Event.fields] using fields
      rw [Stage.label_injective label]
    | skipping reason => exact absurd message.symm (reason.message_ne_parsing stage)
    | compiled => cases level
  | skipping reason =>
    cases e' with
    | parsing stage => exact absurd message (reason.message_ne_parsing stage)
    | skipping reason' =>
      have named : reason.fields = reason'.fields :=
        List.map_injective_iff.2 (fun f f' h => by simpa [Prod.ext_iff] using h) fields
      rw [Skip.eq_of_written message named]
    | compiled => cases level
  | compiled table dialect bindings =>
    cases e' with
    | parsing => cases level
    | skipping => cases level
    | compiled table' dialect' bindings' =>
      simp only [Event.fields, List.cons.injEq, Prod.mk.injEq, Field.text.injEq, Field.number.injEq,
        true_and, and_true] at fields
      obtain ⟨rfl, rfl, rfl⟩ := fields
      rfl

/-- What is written of a trace, event by event, tells the trace. -/
theorem Event.written_injective :
    Function.Injective (List.map fun e : Event => (e.level, e.message, e.fields)) := by
  refine List.map_injective_iff.2 fun e e' h => ?_
  obtain ⟨level, rest⟩ := Prod.ext_iff.1 h
  obtain ⟨message, fields⟩ := Prod.ext_iff.1 rest
  exact eq_of_written level message fields

/-! ## Traces -/

/-- As long as no stage refuses the query, all of them report. -/
theorem Params.eventsOf_of_accepted {p : Params} {stages : List Stage}
    (h : ∀ stage ∈ stages, stage.refusal? p = none) :
    p.eventsOf stages = stages.flatMap (Stage.events p) := by
  induction stages with
  | nil => rfl
  | cons stage rest ih =>
    obtain ⟨first, others⟩ := List.forall_mem_cons.1 h
    rw [eventsOf, first, ih others, List.flatMap_cons]

/-- No stage reports a statement. -/
theorem Params.compiled_not_mem_eventsOf (p : Params) (table dialect : Text) (bindings : Nat)
    (stages : List Stage) : .compiled table dialect bindings ∉ p.eventsOf stages := by
  induction stages with
  | nil => exact List.not_mem_nil
  | cons stage rest ih =>
    intro reported
    rcases List.mem_append.1 reported with reported | reported
    · simp [Stage.events] at reported
    · split at reported
      · cases reported
      · exact ih reported

/-- Everything that is dropped is reported. When a statement comes out, the eight stages announce
themselves in their order, each is followed by the reasons of its own ledger, and one event at the
end says how many bindings there are. Each ledger has on its other side what that stage contributes
to the query that the statement was written from. When none comes out, none is reported, and a
dialect that is not known or a table that is no identifier leaves the trace empty. -/
theorem trace_accounts (table : Text) (p : Params) (name : Text) :
    (∀ c : Compiled, compile table p name = .ok c →
      ∃ (dialect : Dialect) (q : Query) (reasons : Stage → List Skip),
        Dialect.ofName? name = some dialect ∧ Query.ofParams p = .ok q ∧
          c = (Statement.ofQuery dialect.capabilities table q).compiled ∧
          trace table p name =
            [.groups, .joins, .projection, .window, .order, .grouping, .having, .filters].flatMap
                (fun stage => .parsing stage :: (reasons stage).map .skipping) ++
              [.compiled table dialect.name c.bindings.length] ∧
          ∀ stage : Stage, stage.Accounts p q (reasons stage) ∧
            (reasons stage).length + stage.emitted q = stage.given p ∧
            (stage ∈ [.projection, .order, .grouping] → reasons stage = [])) ∧
      (∀ e : QueryError, compile table p name = .error e →
        ∀ (t d : Text) (n : Nat), .compiled t d n ∉ trace table p name) ∧
      (Dialect.ofName? name = none ∨ isIdentifier table = false → trace table p name = []) := by
  refine ⟨fun c compiled => ?_, fun e failed t d n => ?_, fun fault => ?_⟩
  · cases known : Dialect.ofName? name with
    | none => simp [compile, Dialect.ofName, known, bind, Except.bind] at compiled
    | some dialect =>
      rw [compile_of_ofName? known] at compiled
      obtain ⟨valid, q, read, written⟩ := Dialect.compile_eq_ok_iff.1 compiled
      have ledgers := fun stage => Stage.accounts_skips read stage
      refine ⟨dialect, q, fun stage => stage.skips p, rfl, read, written, ?_, fun stage =>
        ⟨ledgers stage, Stage.length_add_emitted (ledgers stage),
          Stage.reasons_eq_nil (ledgers stage)⟩⟩
      simp only [trace, known, Dialect.trace, valid, if_true, compiled]
      rw [Params.eventsOf_of_accepted fun stage _ => Stage.refusal?_of_ofParams read stage]
      rfl
  · cases known : Dialect.ofName? name with
    | none => simp [trace, known]
    | some dialect =>
      rw [compile_of_ofName? known] at failed
      simp only [trace, known, Dialect.trace, failed, List.append_nil]
      split
      · exact p.compiled_not_mem_eventsOf t d n Stage.all
      · exact List.not_mem_nil
  · unfold trace
    rcases fault with unknown | invalid
    · rw [unknown]
    · cases Dialect.ofName? name with
      | none => rfl
      | some dialect => simp [Dialect.trace, invalid]

/-- Items are skipped in five stages of a query that is compiled; a column that is no identifier
refuses another behind a skipped term; and a dialect is not known. -/
theorem trace_accounts_mixed :
    let p := Params.ofPairs [("limit", "ten"), ("a", "eq.1"), ("or", "(a.eq.1,b)"), ("or", "c.eq"),
      ("a", "in.()"), ("having.n", "5"), ("and", "d.no.1"), ("join", "u"), ("join", "u:on=l=r"),
      ("select", "id"), ("orderBy", "id"), ("offset", "3")]
    let refused := Params.ofPairs [("c", "5"), ("select", "a b"), ("or", "b")]
    (∃ (c : Compiled) (dialect : Dialect) (q : Query) (reasons : Stage → List Skip),
        compile "t" p "pg" = .ok c ∧ Query.ofParams p = .ok q ∧
          trace "t" p "pg" = Stage.all.flatMap
              (fun stage => .parsing stage :: (reasons stage).map .skipping) ++
            [.compiled "t" dialect.name c.bindings.length] ∧
          (∀ stage : Stage, stage.Accounts p q (reasons stage)) ∧
          (trace "t" p "pg").length = 8 + 7 + 1) ∧
      (compile "t" refused "pg" = .error (.invalidIdentifier "a b") ∧
        (trace "t" refused "pg").length = 4 ∧
        ∀ (t d : Text) (n : Nat), .compiled t d n ∉ trace "t" refused "pg") ∧
      Dialect.ofName? "oracle" = none ∧ trace "t" p "oracle" = [] := by
  intro p refused
  have known : Dialect.ofName? "pg" = some .postgres := by decide +kernel
  have unknown : Dialect.ofName? "oracle" = none := by decide +kernel
  have accepted : Query.refusal? p = none := by decide +kernel
  have valid : isIdentifier "t" = true := by decide
  have failed : compile "t" refused "pg" = .error (.invalidIdentifier "a b") := by
    rw [compile_of_ofName? known, Dialect.compile_eq_error_iff_head?]
    decide +kernel
  have read : Query.ofParams p = .ok (Query.kept p) := Query.ofParams_eq_ok_iff.2 ⟨accepted, rfl⟩
  have compiled := (compile_of_ofName? known).trans
    (Dialect.compile_eq_ok_iff.2 ⟨valid, _, read, rfl⟩)
  obtain ⟨dialect, q, reasons, -, read, -, events, stages⟩ :=
    (trace_accounts "t" p "pg").1 _ compiled
  exact ⟨⟨_, dialect, q, reasons, compiled, read, events, fun stage => (stages stage).1,
      by decide +kernel⟩,
    ⟨failed, by decide +kernel, (trace_accounts "t" refused "pg").2.1 _ failed⟩, unknown,
    (trace_accounts "t" p "oracle").2.2 (.inl unknown)⟩

end FilterSql
