/-
# FilterSql.Trace -- what is reported while a query is compiled

Every stage announces itself and then reports each item that it skips. A stage that refuses the
query is the last to report. When a statement comes out, one event at the end says so; when the
dialect or the table is at fault, nothing is read and nothing reported.
-/

import FilterSql.Compile

namespace FilterSql

/-- How much an event matters. -/
inductive Level where
  /-- For following each step. -/
  | trace
  /-- For following each query. -/
  | debug
  deriving DecidableEq

/-- The name of the level. -/
def Level.name : Level → Text
  | trace => "TRACE"
  | debug => "DEBUG"

/-- What an event says about something. -/
inductive Field where
  /-- A text. -/
  | text (s : Text)
  /-- A number. -/
  | number (n : Nat)
  deriving DecidableEq

/-- One report. -/
inductive Event where
  /-- A stage begins. -/
  | parsing (stage : Stage)
  /-- An item is skipped. -/
  | skipping (reason : Skip)
  /-- A statement is complete. -/
  | compiled (table dialect : Text) (bindings : Nat)
  deriving DecidableEq

namespace Event

/-- How much the event matters. -/
def level : Event → Level
  | parsing _ => .trace
  | skipping _ => .trace
  | compiled _ _ _ => .debug

/-- The wording. -/
def message : Event → Text
  | parsing _ => "parsing directive"
  | skipping reason => reason.message
  | compiled _ _ _ => "compiled query"

/-- What the event says, name by name. -/
def fields : Event → List (Text × Field)
  | parsing stage => [("directive", .text stage.label)]
  | skipping reason => reason.fields.map fun field => (field.1, .text field.2)
  | compiled table dialect bindings =>
    [("table", .text table), ("dialect", .text dialect), ("bindings", .number bindings)]

end Event

/-- What a stage reports. -/
def Stage.events (p : Params) (stage : Stage) : List Event :=
  .parsing stage :: (stage.skips p).map .skipping

/-- What stages report, up to the first that refuses the query. -/
def Params.eventsOf (p : Params) : List Stage → List Event
  | [] => []
  | stage :: rest =>
    stage.events p ++
      match stage.refusal? p with
      | some _ => []
      | none => p.eventsOf rest

/-- The trace of compiling a query on a table for a dialect. -/
def Dialect.trace (dialect : Dialect) (table : Text) (p : Params) : List Event :=
  if isIdentifier table then
    p.eventsOf Stage.all ++
      match dialect.compile table p with
      | .ok c => [.compiled table dialect.name c.bindings.length]
      | .error _ => []
  else []

/-- The trace of compiling a query on a table for the dialect that answers to a name. -/
def trace (table : Text) (p : Params) (dialectName : Text) : List Event :=
  match Dialect.ofName? dialectName with
  | some dialect => dialect.trace table p
  | none => []

end FilterSql
