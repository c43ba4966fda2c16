/-
# FilterSql.Error -- reasons for refusing a query

A query is refused for one of three reasons only: the dialect is not known, or a name or an
expression could not be written into SQL safely. Everything else that is wrong with a parameter
makes it ignored, not refused.
-/

import FilterSql.Text.Quoted

namespace FilterSql

/-- Why a query was refused. -/
inductive QueryError where
  /-- No dialect goes by this name. -/
  | unsupportedDialect (name : Text)
  /-- A table or a column is no identifier. -/
  | invalidIdentifier (name : Text)
  /-- A select expression is none of the accepted forms. -/
  | invalidExpression (expression : Text)
  deriving DecidableEq

namespace QueryError

/-- The wording. A dialect name is shown as given, the other texts between quotation marks. -/
def message : QueryError → Text
  | unsupportedDialect name => "unsupported dialect: " ++ name
  | invalidIdentifier name => "invalid identifier: " ++ Text.quoted name
  | invalidExpression expression => "invalid expression: " ++ Text.quoted expression

end QueryError

end FilterSql
