/-
# FilterSql.Query.Stages -- the verdicts on query parameters, stage by stage

The parameters are gone through in eight stages, always in the same order and whatever the order of
the keys. Each stage looks at its own keys only and comes to a list of verdicts, one for each item
that it finds there.
-/

import FilterSql.Directive
import FilterSql.Params
import FilterSql.Query.Items

namespace FilterSql

namespace Params

/-! ## Items and their verdicts -/

/-- The groups that were asked for, each with its terms: every `or` value, then every `and` value.
One pair of parentheses around a value does not count. -/
def groups (p : Params) : List (Combinator × List Text) :=
  let terms := fun value => Text.terms (Text.unwrap (Text.trim value))
  (p.values Directive.or.key).map (fun value => (.or, terms value)) ++
    (p.values Directive.and.key).map (fun value => (.and, terms value))

/-- The verdicts on the terms of each group. -/
def groupVerdicts (p : Params) : List (Combinator × List (Verdict Predicate)) :=
  p.groups.map fun group => (group.1, group.2.map Predicate.judgeTerm)

/-- The verdicts on the joins. -/
def joinVerdicts (p : Params) : List (Verdict Join) :=
  (p.values Directive.join.key).map Join.judge

/-- The verdicts on the entries of the select list. -/
def projectionVerdicts (p : Params) : List (Verdict Projection) :=
  ((p.values Directive.select.key).flatMap Text.terms).map Projection.judge

/-- The verdict on the last count given for a key. -/
def countVerdicts (p : Params) (key : Text) : List (Verdict Count) :=
  (p.last? key).toList.map (Count.judge key)

/-- Descending when the last sense given is exactly `desc`. -/
def direction (p : Params) : Direction :=
  if p.last? Directive.order.key = some "desc".toList then .desc else .asc

/-- The verdict on the last sort column given, unless it is blank. -/
def orderVerdicts (p : Params) : List (Verdict SortKey) :=
  (((p.last? Directive.orderBy.key).map Text.trim).filter (· ≠ [])).toList.map
    fun column => SortKey.judge column p.direction

/-- The verdicts on the columns to group by. -/
def groupingVerdicts (p : Params) : List (Verdict Text) :=
  ((p.values Directive.groupBy.key).flatMap Text.items).map
    fun column => Verdict.ofExcept (checkIdentifier column)

/-- The verdicts on the filters on groups, key by key. -/
def havingVerdicts (p : Params) : List (Verdict Predicate) :=
  p.entries.flatMap fun entry =>
    match Directive.ofKey entry.1 with
    | .having column => entry.2.map (Predicate.judgeFilter column)
    | _ => []

/-- The verdicts on the filters on rows, key by key. -/
def filterVerdicts (p : Params) : List (Verdict Predicate) :=
  p.entries.flatMap fun entry =>
    match Directive.ofKey entry.1 with
    | .filter column => entry.2.map (Predicate.judgeFilter column)
    | _ => []

end Params

/-! ## Stages -/

/-- A stage of reading query parameters. -/
inductive Stage where
  /-- The groups. -/
  | groups
  /-- The joins. -/
  | joins
  /-- The select list. -/
  | projection
  /-- Limit and offset. -/
  | window
  /-- The ordering. -/
  | order
  /-- The columns to group by. -/
  | grouping
  /-- The filters on groups. -/
  | having
  /-- The filters on rows. -/
  | filters
  deriving DecidableEq

namespace Stage

/-- Every stage in order. -/
def all : List Stage := [groups, joins, projection, window, order, grouping, having, filters]

theorem mem_all (stage : Stage) : stage ∈ all := by
  cases stage <;> decide

/-- The name by which the trace announces the stage. -/
def label : Stage → Text
  | groups => "or/and"
  | joins => "join"
  | projection => "select"
  | window => "limit/offset"
  | order => "orderBy"
  | grouping => "group_by"
  | having => "having"
  | filters => "filter"

/-- What becomes of the items of a stage, whatever they are. -/
def verdicts (p : Params) : Stage → List (Verdict Unit)
  | groups => (p.groupVerdicts.flatMap Prod.snd).map (.map fun _ => ())
  | joins => p.joinVerdicts.map (.map fun _ => ())
  | projection => p.projectionVerdicts.map (.map fun _ => ())
  | window =>
    (p.countVerdicts Directive.limit.key ++ p.countVerdicts Directive.offset.key).map
      (.map fun _ => ())
  | order => p.orderVerdicts.map (.map fun _ => ())
  | grouping => p.groupingVerdicts.map (.map fun _ => ())
  | having => p.havingVerdicts.map (.map fun _ => ())
  | filters => p.filterVerdicts.map (.map fun _ => ())

/-- Why the stage refuses the query, if it does. -/
def refusal? (p : Params) (stage : Stage) : Option QueryError :=
  Verdict.refusalOf? (stage.verdicts p)

/-- The reasons for skipping that come up before the stage refuses the query, if it does. -/
def skips (p : Params) (stage : Stage) : List Skip := Verdict.skipsOf (stage.verdicts p)

end Stage

end FilterSql
