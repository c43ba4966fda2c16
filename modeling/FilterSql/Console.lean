/-
# FilterSql.Console -- the command-line program

What a command line and the environment lead to: an exit code and the texts for the two output
streams. The result of compiling goes to the standard output, everything about it to the standard
error. How much is reported never changes the result, and the form of the result never changes what
is reported.
-/

import FilterSql.Compile
import FilterSql.Compiled.Json
import FilterSql.Compiled.Listing
import FilterSql.Console.Arguments

namespace FilterSql

namespace Console

/-- What a run of the program leaves behind. -/
structure Report where
  /-- The exit code. -/
  exitCode : Nat
  /-- The standard output. -/
  stdout : Text
  /-- The standard error. -/
  stderr : Text
  deriving DecidableEq

/-- The variable that names the dialect when no option does. -/
def dialectVariable : String := "SILO_DB_CLIENT"

/-- The dialect when nothing names one. -/
def defaultDialect : Text := "postgres"

/-- The program and its version. -/
def versionLine : Text := "silo-query 0.1.0\n"

/-- How the program is called. -/
def usage : Text := "Usage: silo-query [OPTIONS] <TABLE> [QUERY]\n"

/-- The help text. -/
def help : Text :=
  "Compile REST filter query strings into parameterized SQL\n\n" ++ usage ++
    "\nArguments:\n" ++
    "  <TABLE>  Table to select from\n" ++
    "  [QUERY]  Raw query string, e.g. country=in.(US,UK)&age=gt.20&limit=10\n" ++
    "\nOptions:\n" ++
    "  -d, --dialect <DIALECT>  Target database engine (postgres, mysql, sqlite, mssql)\n" ++
    "      --json               Print the compiled query as JSON\n" ++
    "  -v, --verbose            Enable verbose output\n" ++
    "  -h, --help               Print help\n" ++
    "  -V, --version            Print version\n"

/-- The report for a command line that leads to no compilation. -/
def Halt.report : Halt → Report
  | help => ⟨0, Console.help, []⟩
  | version => ⟨0, versionLine, []⟩
  | misuse => ⟨2, [], "error: invalid arguments\n\n" ++ usage⟩

/-- The line that says which dialect was settled on. -/
def configuredLine (dialect : Dialect) : Text :=
  " INFO compiler configured dialect=" ++ dialect.name ++ "\n"

/-- The line that says what was compiled. -/
def compiledLine (table : Text) (dialect : Dialect) (bindings : Nat) : Text :=
  "DEBUG compiled query table=" ++ Text.quoted table ++ " dialect=" ++ dialect.name ++
    " bindings=" ++ Nat.toDigits 10 bindings ++ "\n"

/-- The line that says what is wrong. -/
def errorLine (e : QueryError) : Text := "Error: " ++ e.message ++ "\n"

/-- A compiled query in the form that was asked for. -/
def render (json : Bool) (c : Compiled) : Text := if json then c.toJson ++ "\n" else c.listing

/-- What an invocation leads to for a dialect name. -/
def Invocation.run (i : Invocation) (dialectName : Text) : Report :=
  match Dialect.ofName dialectName with
  | .error e => ⟨1, [], errorLine e⟩
  | .ok dialect =>
    match dialect.compile i.table (Params.ofQueryString i.query) with
    | .error e => ⟨1, [], configuredLine dialect ++ errorLine e⟩
    | .ok c =>
      { exitCode := 0
        stdout := render i.json c
        stderr := configuredLine dialect ++
          if i.verbose then compiledLine i.table dialect c.bindings.length else [] }

/-- What a command line leads to. The option names the dialect, else the environment, where an empty
name counts, else the default. -/
def run (args : List Text) (environment : Option Text) : Report :=
  match Invocation.ofArguments args with
  | .error halt => halt.report
  | .ok i => i.run ((i.dialect.or environment).getD defaultDialect)

end Console

end FilterSql
