/-
# FilterSql.Console.Arguments -- reading a command line

    [-d DIALECT] [--json] [-v] TABLE [QUERY]

Options may stand anywhere before `--`, short ones may be joined, and a dialect may follow its
option as an argument of its own, directly, or behind an equals sign. An option may be given once
only and must be written in full. The command line is read from left to right, and the first
argument that asks for help or for the version, or that is out of place, decides.
-/

import FilterSql.Text.Split

namespace FilterSql

namespace Console

/-- What a well-formed command line asks for. -/
structure Invocation where
  /-- The dialect, if one was given. -/
  dialect : Option Text
  /-- The table. -/
  table : Text
  /-- The query string. -/
  query : Text
  /-- Write JSON. -/
  json : Bool
  /-- Report more. -/
  verbose : Bool
  deriving DecidableEq

/-- Why nothing is compiled. -/
inductive Halt where
  /-- Help was asked for. -/
  | help
  /-- The version was asked for. -/
  | version
  /-- The command line makes no sense. -/
  | misuse
  deriving DecidableEq

/-- What the arguments read so far have said. -/
structure Draft where
  /-- The dialect. -/
  dialect : Option Text
  /-- The operands in order, two at most. -/
  operands : List Text
  /-- Write JSON. -/
  json : Bool
  /-- Report more. -/
  verbose : Bool
  deriving DecidableEq

namespace Draft

/-- Nothing has been said. -/
def empty : Draft := ⟨none, [], false, false⟩

/-- Takes a dialect, once. -/
def withDialect (d : Draft) (name : Text) : Except Halt Draft :=
  if d.dialect.isSome then .error .misuse else .ok { d with dialect := some name }

/-- Takes the option for JSON, once. -/
def withJson (d : Draft) : Except Halt Draft :=
  if d.json then .error .misuse else .ok { d with json := true }

/-- Takes the option to report more, once. -/
def withVerbose (d : Draft) : Except Halt Draft :=
  if d.verbose then .error .misuse else .ok { d with verbose := true }

/-- Takes an operand, unless two have been given. -/
def withOperand (d : Draft) (operand : Text) : Except Halt Draft :=
  if d.operands.length < 2 then .ok { d with operands := d.operands ++ [operand] }
  else .error .misuse

/-- What a complete command line asks for. There has to be a table; a missing query string is empty.
-/
def invocation (d : Draft) : Except Halt Invocation :=
  match d.operands with
  | [] => .error .misuse
  | table :: rest => .ok ⟨d.dialect, table, rest.headD [], d.json, d.verbose⟩

end Draft

/-- Where one argument leaves the command line. -/
inductive Progress where
  /-- At the start of another argument. -/
  | settled (d : Draft)
  /-- Before the argument that names the dialect. -/
  | awaitingDialect (d : Draft)

/-- Reads joined short options. What follows `d` is the dialect, behind an equals sign or not. -/
def shortOptions (d : Draft) : Text → Except Halt Progress
  | [] => .ok (.settled d)
  | 'd' :: [] => .ok (.awaitingDialect d)
  | 'd' :: '=' :: name => (d.withDialect name).map .settled
  | 'd' :: name => (d.withDialect name).map .settled
  | 'v' :: rest =>
    match d.withVerbose with
    | .ok d => shortOptions d rest
    | .error halt => .error halt
  | 'V' :: _ => .error .version
  | 'h' :: _ => .error .help
  | _ => .error .misuse

/-- Reads a long option with the value behind its equals sign, if it has one. -/
def longOption (d : Draft) (name : Text) (value : Option Text) : Except Halt Progress :=
  match value with
  | some value =>
    if name = "dialect" then (d.withDialect value).map .settled else .error .misuse
  | none =>
    if name = "dialect" then .ok (.awaitingDialect d)
    else if name = "json" then d.withJson.map .settled
    else if name = "verbose" then d.withVerbose.map .settled
    else if name = "version" then .error .version
    else if name = "help" then .error .help
    else .error .misuse

/-- Is the argument an option? A single hyphen is not. -/
def isOption : Text → Bool
  | '-' :: _ :: _ => true
  | _ => false

/-- Reads one argument in front of `--`. -/
def argument (d : Draft) : Text → Except Halt Progress
  | '-' :: '-' :: body =>
    match cut? ['='] body with
    | some (name, value) => longOption d name (some value)
    | none => longOption d body none
  | '-' :: c :: rest => shortOptions d (c :: rest)
  | operand => (d.withOperand operand).map .settled

/-- Reads the arguments behind those that a draft stands for. -/
def arguments (d : Draft) : List Text → Except Halt Draft
  | [] => .ok d
  | arg :: rest =>
    if arg = "--" then rest.foldlM Draft.withOperand d
    else
      match argument d arg with
      | .error halt => .error halt
      | .ok (.settled d) => arguments d rest
      | .ok (.awaitingDialect d) =>
        match rest with
        | [] => .error .misuse
        | name :: rest =>
          if isOption name then .error .misuse
          else
            match d.withDialect name with
            | .error halt => .error halt
            | .ok d => arguments d rest

/-- What a command line asks for, or why nothing is compiled. -/
def Invocation.ofArguments (args : List Text) : Except Halt Invocation :=
  match arguments Draft.empty args with
  | .error halt => .error halt
  | .ok d => d.invocation

end Console

end FilterSql
