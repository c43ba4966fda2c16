/-
# FilterSql.Dialect -- the known SQL dialects

Four dialects, each with a canonical name, further names that it answers to, and a capability table.
Blanks around a name and the case of its ASCII letters do not count.
-/

import FilterSql.Dialect.Capabilities
import FilterSql.Error

namespace FilterSql

/-- A known dialect. -/
inductive Dialect where
  /-- PostgreSQL. -/
  | postgres
  /-- MySQL and MariaDB. -/
  | mysql
  /-- SQLite. -/
  | sqlite
  /-- Microsoft SQL Server. -/
  | mssql
  deriving DecidableEq

namespace Dialect

/-- Every dialect. -/
def all : List Dialect := [postgres, mysql, sqlite, mssql]

/-- The canonical name. -/
def name : Dialect → Text
  | postgres => "postgres"
  | mysql => "mysql"
  | sqlite => "sqlite"
  | mssql => "mssql"

/-- Every name that the dialect answers to. -/
def names : Dialect → List Text
  | postgres => ["postgres", "postgresql", "pg"]
  | mysql => ["mysql", "mariadb"]
  | sqlite => ["sqlite", "sqlite3"]
  | mssql => ["mssql", "sqlserver"]

/-- The dialect that answers to a name. -/
def ofName? (s : Text) : Option Dialect :=
  all.find? fun dialect => dialect.names.contains (Text.lower (Text.trim s))

/-- The dialect that answers to a name, or the refusal of the name as given. -/
def ofName (s : Text) : Except QueryError Dialect :=
  match ofName? s with
  | some dialect => .ok dialect
  | none => .error (.unsupportedDialect s)

/-- The capability table. -/
def capabilities : Dialect → Capabilities
  | postgres =>
    { window := .limitOffset, offsetNeedsOrder := false, lockHint := none, openQuote := '"',
      closeQuote := '"', supportsIlike := true, unboundedLimit := none }
  | mysql =>
    { window := .limitOffset, offsetNeedsOrder := false, lockHint := none, openQuote := '\x60',
      closeQuote := '\x60', supportsIlike := false,
      unboundedLimit := some "18446744073709551615" }
  | sqlite =>
    { window := .limitOffset, offsetNeedsOrder := false, lockHint := none, openQuote := '"',
      closeQuote := '"', supportsIlike := false, unboundedLimit := some "-1" }
  | mssql =>
    { window := .topFetch, offsetNeedsOrder := true, lockHint := some "WITH (NOLOCK)",
      openQuote := '[', closeQuote := ']', supportsIlike := false, unboundedLimit := none }

/-- A dialect answers to its canonical name. -/
theorem ofName?_name (dialect : Dialect) : ofName? dialect.name = some dialect := by
  cases dialect <;> decide

end Dialect

end FilterSql
