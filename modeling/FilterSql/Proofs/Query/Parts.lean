/-
# FilterSql.Proofs.Query.Parts -- what each part of a query depends on

Keys may arrive in any order and mixed with one another. A query has eight parts, and each of them
is read off its own keys: `Part.Agree` says when two parameter sets give a part the same to read,
and `Part.Same` that two queries have the part in common. The order of the entries counts among the
filters on rows and among the filters on groups of rows, and nowhere else.

Stages are gone through one after the other, but a stage reads the keys of one part only. So the
refusal of a query, too, depends on no more than what its parts read.
-/

import FilterSql.Proofs.Query.WellFormed

namespace FilterSql

/-! ## Parts and what they read -/

/-- The entries of all keys of which a column is picked, in their order. -/
def Params.columnEntries (p : Params) (pick : Directive → Option Text) :
    List (Text × List Text) :=
  p.entries.filter fun entry => (pick (Directive.ofKey entry.1)).isSome

/-- A part of a query. -/
inductive Part where
  /-- The conditions on rows. -/
  | conditions
  /-- The joins. -/
  | joins
  /-- The select list. -/
  | projection
  /-- The wildcard flag. -/
  | exclude
  /-- The window of rows. -/
  | window
  /-- The ordering. -/
  | order
  /-- The columns to group by. -/
  | grouping
  /-- The conditions on groups of rows. -/
  | having
  deriving DecidableEq

namespace Part

/-- Two parameter sets give the part the same to read. -/
def Agree (p p' : Params) : Part → Prop
  | conditions =>
    p.values Directive.or.key = p'.values Directive.or.key ∧
      p.values Directive.and.key = p'.values Directive.and.key ∧
      p.columnEntries Directive.rowColumn? = p'.columnEntries Directive.rowColumn?
  | joins => p.values Directive.join.key = p'.values Directive.join.key
  | projection => p.values Directive.select.key = p'.values Directive.select.key
  | exclude => p.contains Directive.exclude.key = p'.contains Directive.exclude.key
  | window =>
    p.values Directive.limit.key = p'.values Directive.limit.key ∧
      p.values Directive.offset.key = p'.values Directive.offset.key
  | order =>
    p.values Directive.orderBy.key = p'.values Directive.orderBy.key ∧
      p.values Directive.order.key = p'.values Directive.order.key
  | grouping => p.values Directive.groupBy.key = p'.values Directive.groupBy.key
  | having => p.columnEntries Directive.groupColumn? = p'.columnEntries Directive.groupColumn?

instance (p p' : Params) (part : Part) : Decidable (part.Agree p p') :=
  match part with
  | conditions => inferInstanceAs (Decidable (_ ∧ _ ∧ _))
  | joins | projection | grouping | having => inferInstanceAs (Decidable (_ = _))
  | exclude => inferInstanceAs (Decidable (_ = _))
  | window | order => inferInstanceAs (Decidable (_ ∧ _))

/-- Two queries have the part in common. -/
def Same (q q' : Query) : Part → Prop
  | conditions => q.conditions = q'.conditions
  | joins => q.joins = q'.joins
  | projection => q.projection = q'.projection
  | exclude => q.exclude = q'.exclude
  | window => q.window = q'.window
  | order => q.order = q'.order
  | grouping => q.grouping = q'.grouping
  | having => q.having = q'.having

/-- A query is its parts. -/
theorem eq_of_same {q q' : Query} (h : ∀ part : Part, part.Same q q') : q = q' := by
  cases q
  cases q'
  rw [Query.mk.injEq]
  exact ⟨h .conditions, h .joins, h .projection, h .exclude, h .window, h .order, h .grouping,
    h .having⟩

end Part

/-! ## Verdicts on a part -/

namespace Params

/-- The verdicts on filters are those on the entries that are filters. -/
theorem columnVerdicts_eq (p : Params) (pick : Directive → Option Text) :
    p.columnVerdicts pick = (p.columnEntries pick).flatMap fun entry =>
      (pick (Directive.ofKey entry.1)).toList.flatMap fun column =>
        entry.2.map (Predicate.judgeFilter column) := by
  unfold columnVerdicts columnEntries
  induction p.entries with
  | nil => rfl
  | cons entry rest ih =>
    rw [List.flatMap_cons, ih]
    cases picked : pick (Directive.ofKey entry.1) with
    | none => rw [List.filter_cons_of_neg (by simp [picked])]; rfl
    | some column => rw [List.filter_cons_of_pos (by simp [picked]), List.flatMap_cons, picked]

variable {p p' : Params}

theorem columnVerdicts_congr {pick : Directive → Option Text}
    (h : p.columnEntries pick = p'.columnEntries pick) :
    p.columnVerdicts pick = p'.columnVerdicts pick := by
  rw [columnVerdicts_eq, columnVerdicts_eq, h]

theorem groupVerdicts_congr (h : Part.conditions.Agree p p') :
    p.groupVerdicts = p'.groupVerdicts := by
  rw [groupVerdicts, groupVerdicts, groups, groups, h.1, h.2.1]

theorem filterVerdicts_congr (h : Part.conditions.Agree p p') :
    p.filterVerdicts = p'.filterVerdicts := by
  rw [filterVerdicts_eq, filterVerdicts_eq, columnVerdicts_congr h.2.2]

theorem havingVerdicts_congr (h : Part.having.Agree p p') :
    p.havingVerdicts = p'.havingVerdicts := by
  rw [havingVerdicts_eq, havingVerdicts_eq, columnVerdicts_congr h]

theorem joinVerdicts_congr (h : Part.joins.Agree p p') : p.joinVerdicts = p'.joinVerdicts :=
  congrArg (List.map Join.judge) h

theorem projectionVerdicts_congr (h : Part.projection.Agree p p') :
    p.projectionVerdicts = p'.projectionVerdicts :=
  congrArg (fun values => (values.flatMap Text.terms).map Projection.judge) h

theorem countVerdicts_congr {key : Text} (h : p.values key = p'.values key) :
    p.countVerdicts key = p'.countVerdicts key := by
  rw [countVerdicts, countVerdicts, last?, last?, h]

theorem orderVerdicts_congr (h : Part.order.Agree p p') : p.orderVerdicts = p'.orderVerdicts := by
  rw [orderVerdicts, orderVerdicts, direction, direction, last?, last?, last?, last?, h.1, h.2]

theorem groupingVerdicts_congr (h : Part.grouping.Agree p p') :
    p.groupingVerdicts = p'.groupingVerdicts :=
  congrArg (fun values => (values.flatMap Text.items).map fun column =>
    Verdict.ofExcept (checkIdentifier column)) h

end Params

/-! ## Stages and kept parts -/

/-- The part whose keys a stage reads. The wildcard flag is read by none. -/
def Stage.part : Stage → Part
  | groups => .conditions
  | joins => .joins
  | projection => .projection
  | window => .window
  | order => .order
  | grouping => .grouping
  | having => .having
  | filters => .conditions

/-- A stage comes to the same verdicts when its part has the same to read. -/
theorem Stage.verdicts_congr {p p' : Params} (stage : Stage) (h : stage.part.Agree p p') :
    stage.verdicts p = stage.verdicts p' := by
  cases stage with
  | groups => rw [verdicts, verdicts, Params.groupVerdicts_congr h]
  | joins => rw [verdicts, verdicts, Params.joinVerdicts_congr h]
  | projection => rw [verdicts, verdicts, Params.projectionVerdicts_congr h]
  | window =>
    rw [verdicts, verdicts, Params.countVerdicts_congr h.1, Params.countVerdicts_congr h.2]
  | order => rw [verdicts, verdicts, Params.orderVerdicts_congr h]
  | grouping => rw [verdicts, verdicts, Params.groupingVerdicts_congr h]
  | having => rw [verdicts, verdicts, Params.havingVerdicts_congr h]
  | filters => rw [verdicts, verdicts, Params.filterVerdicts_congr h]

namespace Query

variable {p p' : Params}

/-- The refusal is the same when all parts have the same to read. -/
theorem refusal?_congr (h : ∀ part : Part, part.Agree p p') : refusal? p = refusal? p' := by
  have stage : ∀ s : Stage, s.refusal? p = s.refusal? p' := fun s => by
    rw [Stage.refusal?, Stage.refusal?, s.verdicts_congr (h s.part)]
  rw [refusal?, refusal?, funext stage]

/-- What is kept for a part is the same when the part has the same to read. -/
theorem same_kept (part : Part) (h : part.Agree p p') : part.Same (kept p) (kept p') := by
  cases part with
  | conditions =>
    show (kept p).conditions = (kept p').conditions
    rw [kept, kept, keptGroups, keptGroups, Params.groupVerdicts_congr h,
      Params.filterVerdicts_congr h]
  | joins => exact congrArg Verdict.keptOf (Params.joinVerdicts_congr h)
  | projection => exact congrArg Verdict.keptOf (Params.projectionVerdicts_congr h)
  | exclude => exact h
  | window =>
    show (kept p).window = (kept p').window
    rw [kept, kept, Params.countVerdicts_congr h.1, Params.countVerdicts_congr h.2]
  | order => exact congrArg (fun v => (Verdict.keptOf v).head?) (Params.orderVerdicts_congr h)
  | grouping => exact congrArg Verdict.keptOf (Params.groupingVerdicts_congr h)
  | having =>
    exact congrArg (fun v => (Verdict.keptOf v).map Condition.predicate)
      (Params.havingVerdicts_congr h)

/-- Parameters are refused alike or ask for the same query when all parts have the same to read. -/
theorem ofParams_congr (h : ∀ part : Part, part.Agree p p') : ofParams p = ofParams p' := by
  have query : kept p = kept p' := Part.eq_of_same fun part => same_kept part (h part)
  rw [ofParams, ofParams, refusal?_congr h, query]

/-- Only what the parts read counts, not how the keys are mixed. Parameters that give every part the
same to read are refused alike or ask for the same query. And of two queries that parameters ask
for, each part is the same as soon as it has the same to read, whatever became of the others. -/
theorem ofParams_partwise (p p' : Params) :
    ((∀ part : Part, part.Agree p p') → ofParams p = ofParams p') ∧
      ∀ q q' : Query, ofParams p = .ok q → ofParams p' = .ok q' →
        ∀ part : Part, part.Agree p p' → part.Same q q' := by
  refine ⟨ofParams_congr, fun q q' read read' part agree => ?_⟩
  obtain ⟨-, rfl⟩ := ofParams_eq_ok_iff.1 read
  obtain ⟨-, rfl⟩ := ofParams_eq_ok_iff.1 read'
  exact same_kept part agree

/-- The same keys in two orders ask for one query, in two orders of filters for two, which have all
parts but the conditions in common. -/
theorem ofParams_partwise_mixed :
    let p := Params.ofPairs [("limit", "5"), ("a", "eq.1"), ("having.n", "gt.2"), ("b", "eq.3"),
      ("or", "(c.eq.4)"), ("select", "a,b")]
    let mixed := Params.ofPairs [("or", "(c.eq.4)"), ("a", "eq.1"), ("select", "a,b"),
      ("b", "eq.3"), ("having.n", "gt.2"), ("limit", "5")]
    let turned := Params.ofPairs [("limit", "5"), ("b", "eq.3"), ("having.n", "gt.2"),
      ("a", "eq.1"), ("or", "(c.eq.4)"), ("select", "a,b")]
    p ≠ mixed ∧ ofParams p = ofParams mixed ∧
      ∃ q q' : Query, ofParams p = .ok q ∧ ofParams turned = .ok q' ∧ q ≠ q' ∧
        ∀ part ≠ Part.conditions, part.Same q q' := by
  intro p mixed turned
  have agree : ∀ part : Part, part.Agree p mixed := by
    intro part
    cases part <;> decide +kernel
  have agreeElsewhere : ∀ part ≠ Part.conditions, part.Agree p turned := by
    intro part other
    cases part with
    | conditions => exact absurd rfl other
    | _ => decide +kernel
  have accepted : refusal? p = none ∧ refusal? turned = none := by decide +kernel
  have read : ofParams p = .ok (kept p) := ofParams_eq_ok_iff.2 ⟨accepted.1, rfl⟩
  have readTurned : ofParams turned = .ok (kept turned) := ofParams_eq_ok_iff.2 ⟨accepted.2, rfl⟩
  exact ⟨by decide +kernel, (ofParams_partwise p mixed).1 agree, kept p, kept turned, read,
    readTurned, by decide +kernel, fun part other =>
      (ofParams_partwise p turned).2 _ _ read readTurned part (agreeElsewhere part other)⟩

end Query

end FilterSql
