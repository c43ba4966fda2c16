/-
# FilterSql.Expression -- select expressions that may stand in SQL text

Two forms, each with an optional alias: an identifier, and a call of one of five aggregates whose
arguments are identifiers or stars.

    users.name
    COUNT(*) AS total
    sum( orders.price , orders.tax ) as paid

The name of the aggregate stands directly before its parenthesis. Blanks of any kind may surround
the arguments and must surround the alias keyword. Aggregates and the keyword ignore letter case in
the sense of Unicode simple case folding, so the long s U+017F counts as an s in both.
-/

import FilterSql.Identifier
import FilterSql.Text.Split

namespace FilterSql

namespace Expression

/-- Simple case folding of the characters that fold to ASCII: the capitals, the long s and the
Kelvin sign. Every other character stays. -/
def foldCase (c : Char) : Char :=
  if c = '\u017F' then 's' else if c = '\u212A' then 'k' else c.toLower

/-- The aggregates that may be called. -/
def aggregates : List Text := ["count", "sum", "avg", "min", "max"]

/-- Is the text the name of an aggregate, in whatever case? -/
def isAggregate (s : Text) : Bool := aggregates.contains (s.map foldCase)

/-- Does the text start with a blank? -/
def startsBlank (s : Text) : Bool := s.head?.any Text.isBlank

/-- Is the text an alias: blanks, the keyword, blanks and one name? -/
def isAlias (s : Text) : Bool :=
  let fromKeyword := Text.trimStart s
  let afterKeyword := fromKeyword.drop 2
  startsBlank s && (fromKeyword.take 2).map foldCase = "as".toList && startsBlank afterKeyword &&
    isName (Text.trimStart afterKeyword)

/-- What may follow the column or the call. -/
def isTail (s : Text) : Bool := s.isEmpty || isAlias s

/-- An identifier with its tail. The identifier ends where its characters end. -/
def isColumn (s : Text) : Bool :=
  let inColumn := fun c => isNameChar c || c = '.'
  isIdentifier (s.takeWhile inColumn) && isTail (s.dropWhile inColumn)

/-- An argument of a call. -/
def isArgument (s : Text) : Bool := s = ['*'] || isIdentifier s

/-- An aggregate call with its tail. The arguments end at the first closing parenthesis. -/
def isCall (s : Text) : Bool :=
  match cut? ['('] s with
  | none => false
  | some (name, afterOpening) =>
    match cut? [')'] afterOpening with
    | none => false
    | some (arguments, tail) =>
      isAggregate name && (arguments.splitOn ',').all (isArgument ∘ Text.trim) && isTail tail

end Expression

/-- Is the text an expression? Blanks around the whole do not count. -/
def isExpression (s : Text) : Bool :=
  Expression.isColumn (Text.trim s) || Expression.isCall (Text.trim s)

/-- The expression as given, blanks included, or the refusal of what is none. -/
def checkExpression (s : Text) : Except QueryError Text :=
  if isExpression s then .ok s else .error (.invalidExpression s)

end FilterSql
