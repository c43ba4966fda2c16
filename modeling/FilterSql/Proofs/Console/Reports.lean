/-
# FilterSql.Proofs.Console.Reports -- the program reports what compiling comes to

The program settles on a dialect first and compiles in a second step, while `compile` does both at
once. Whichever of the two steps fails, the report is the one that belongs to the outcome of
`compile`: the result of compiling is all that the standard output ever holds, and an error is the
last line of the standard error.

The switches for JSON and for more reporting are about one stream each. `Invocation.commandLine`
writes any invocation as arguments, so nothing here is about invocations that no one can ask for.

Since one text shows one query at most, two runs with the same output in the same form have compiled
the same, whatever command lines and environments have led to them.
-/

import FilterSql.Proofs.Console.Output
import FilterSql.Proofs.Query.Refusals

namespace FilterSql

namespace Console

/-! ## Command lines -/

/-- The name of the dialect: that of the option, else that of the environment, else the default. -/
def Invocation.dialectName (i : Invocation) (environment : Option Text) : Text :=
  (i.dialect.or environment).getD defaultDialect

/-- What compiling in one step comes to. -/
def Invocation.outcome (i : Invocation) (environment : Option Text) : Except QueryError Compiled :=
  compile i.table (Params.ofQueryString i.query) (i.dialectName environment)

/-- The arguments that ask for an invocation: options in full and in front, and the operands behind
a mark, so that they may begin with a hyphen. -/
def Invocation.commandLine (i : Invocation) : List Text :=
  i.dialect.toList.map ("--dialect=".toList ++ ·) ++ (if i.json then ["--json".toList] else []) ++
    (if i.verbose then ["--verbose".toList] else []) ++ ["--".toList, i.table, i.query]

/-- An option that a draft takes is done with before the next argument. -/
theorem arguments_cons {d d' : Draft} {arg : Text} (rest : List Text) (other : arg ≠ "--".toList)
    (taken : argument d arg = .ok (.settled d')) :
    arguments d (arg :: rest) = arguments d' rest := by
  rw [arguments, if_neg other, taken]

theorem arguments_dialect (dialect : Option Text) (rest : List Text) :
    arguments Draft.empty (dialect.toList.map ("--dialect=".toList ++ ·) ++ rest) =
      arguments { Draft.empty with dialect := dialect } rest := by
  cases dialect with
  | none => rfl
  | some name =>
    apply arguments_cons rest
    · intro same
      cases same
    · rfl

theorem arguments_json {d : Draft} (json : Bool) (rest : List Text) (unset : d.json = false) :
    arguments d ((if json then ["--json".toList] else []) ++ rest) =
      arguments { d with json := json } rest := by
  obtain ⟨dialect, operands, set, verbose⟩ := d
  cases unset
  cases json with
  | false => rfl
  | true => exact arguments_cons rest (by decide) rfl

theorem arguments_verbose {d : Draft} (verbose : Bool) (rest : List Text)
    (unset : d.verbose = false) :
    arguments d ((if verbose then ["--verbose".toList] else []) ++ rest) =
      arguments { d with verbose := verbose } rest := by
  obtain ⟨dialect, operands, json, set⟩ := d
  cases unset
  cases verbose with
  | false => rfl
  | true => exact arguments_cons rest (by decide) rfl

/-- Behind the mark two operands are taken as they stand. -/
theorem arguments_operands {d : Draft} (table query : Text) (unset : d.operands = []) :
    arguments d ["--".toList, table, query] = .ok { d with operands := [table, query] } := by
  show [table, query].foldlM Draft.withOperand d = _
  simp [Draft.withOperand, unset, bind, Except.bind, pure, Except.pure]

/-- Every invocation can be asked for. -/
theorem Invocation.ofArguments_commandLine (i : Invocation) :
    ofArguments i.commandLine = .ok i := by
  rw [ofArguments, commandLine, List.append_assoc, List.append_assoc, arguments_dialect,
    arguments_json i.json _ rfl, arguments_verbose i.verbose _ rfl, arguments_operands _ _ rfl]
  rfl

/-! ## Reports -/

/-- A command line is run for the dialect that it settles on. -/
theorem run_of_ofArguments {args : List Text} {i : Invocation} (environment : Option Text)
    (h : Invocation.ofArguments args = .ok i) :
    run args environment = i.run (i.dialectName environment) := by
  rw [run, h]
  rfl

namespace Invocation

variable {i : Invocation} {environment : Option Text}

/-- What is compiled is reported on the standard output, and on the standard error that there is a
dialect. -/
theorem run_of_outcome_eq_ok {c : Compiled} (h : i.outcome environment = .ok c) :
    ∃ dialect, Dialect.ofName? (i.dialectName environment) = some dialect ∧
      i.run (i.dialectName environment) =
        { exitCode := 0
          stdout := render i.json c
          stderr := configuredLine dialect ++
            if i.verbose then compiledLine i.table dialect c.bindings.length else [] } := by
  unfold outcome compile at h
  unfold run
  unfold Dialect.ofName at h ⊢
  cases known : Dialect.ofName? (i.dialectName environment) with
  | none =>
    rw [known] at h
    cases h
  | some dialect =>
    rw [known] at h
    have compiled : dialect.compile i.table (Params.ofQueryString i.query) = .ok c := h
    exact ⟨dialect, rfl, by simp only [compiled]⟩

/-- An error is reported on the standard error alone, behind the line on the dialect if there is
one. -/
theorem run_of_outcome_eq_error {e : QueryError} (h : i.outcome environment = .error e) :
    i.run (i.dialectName environment) =
      { exitCode := 1
        stdout := []
        stderr := (Dialect.ofName? (i.dialectName environment)).toList.flatMap configuredLine ++
          errorLine e } := by
  unfold outcome compile at h
  unfold run
  unfold Dialect.ofName at h ⊢
  cases known : Dialect.ofName? (i.dialectName environment) with
  | none =>
    rw [known] at h
    cases h
    rfl
  | some dialect =>
    rw [known] at h
    have failed : dialect.compile i.table (Params.ofQueryString i.query) = .error e := h
    simp only [failed]
    simp

end Invocation

/-! ## The line on the dialect -/

/-- The line names its dialect. -/
theorem configuredLine_prefix_iff {dialect dialect' : Dialect} {rest : Text} :
    configuredLine dialect <+: configuredLine dialect' ++ rest ↔ dialect = dialect' := by
  constructor
  · intro front
    have apart : ∀ d d' : Dialect, configuredLine d <+: configuredLine d' → d = d' := by
      intro d d'
      cases d <;> cases d' <;> decide
    rcases List.prefix_or_prefix_of_prefix front (List.prefix_append _ rest) with h | h
    · exact apart _ _ h
    · exact (apart _ _ h).symm
  · rintro rfl
    exact List.prefix_append _ _

/-- An error comes in another line. -/
theorem not_configuredLine_prefix_errorLine (dialect : Dialect) (e : QueryError) :
    ¬ configuredLine dialect <+: errorLine e := by
  rintro ⟨rest, same⟩
  cases congrArg List.head? same

/-! ## What a report is about -/

/-- The report is about an outcome of compiling. -/
structure Report.Reflects (r : Report) (json : Bool) (outcome : Except QueryError Compiled) :
    Prop where
  /-- The exit code is zero exactly when there is a compiled query. -/
  exitCode : r.exitCode = 0 ↔ ∃ c, outcome = .ok c
  /-- The standard output is the compiled query in the form that was asked for. -/
  compiled : ∀ c, outcome = .ok c → r.stdout = render json c
  /-- Whoever reads it gets that query. -/
  shown : ∀ c, outcome = .ok c → Shows json r.stdout c
  /-- With an error there is none, and the standard error ends with its message. -/
  error : ∀ e, outcome = .error e → r.exitCode = 1 ∧ r.stdout = [] ∧
    "Error: ".toList ++ e.message ++ "\n".toList <:+ r.stderr

namespace Invocation

variable {i : Invocation} {environment : Option Text}

theorem run_reflects : (i.run (i.dialectName environment)).Reflects i.json
    (i.outcome environment) := by
  cases h : i.outcome environment with
  | ok c =>
    obtain ⟨dialect, -, report⟩ := run_of_outcome_eq_ok h
    rw [report]
    refine ⟨⟨fun _ => ⟨c, rfl⟩, fun _ => rfl⟩, fun c' same => ?_, fun c' same => ?_,
      fun e failed => ?_⟩
    · cases same
      rfl
    · cases same
      exact shows_render i.json (dollar_not_mem_sql h)
    · cases failed
  | error e =>
    rw [run_of_outcome_eq_error h]
    refine ⟨⟨fun zero => ?_, fun ⟨c, compiled⟩ => ?_⟩, fun c compiled => ?_, fun c compiled => ?_,
      fun e' same => ?_⟩
    · cases zero
    · cases compiled
    · cases compiled
    · cases compiled
    · cases same
      exact ⟨rfl, rfl, List.suffix_append _ _⟩

/-- The line on the dialect is the first one when there is a dialect, and is missing otherwise. -/
theorem configuredLine_prefix_run_iff {dialect : Dialect} :
    configuredLine dialect <+: (i.run (i.dialectName environment)).stderr ↔
      Dialect.ofName? (i.dialectName environment) = some dialect := by
  cases h : i.outcome environment with
  | ok c =>
    obtain ⟨settled, known, report⟩ := run_of_outcome_eq_ok h
    rw [report, known, Option.some.injEq]
    exact configuredLine_prefix_iff.trans eq_comm
  | error e =>
    rw [run_of_outcome_eq_error h]
    cases Dialect.ofName? (i.dialectName environment) with
    | none => exact iff_of_false (not_configuredLine_prefix_errorLine dialect e) (by simp)
    | some settled =>
      rw [Option.some.injEq, Option.toList_some, List.flatMap_singleton]
      exact configuredLine_prefix_iff.trans eq_comm

/-- Neither switch changes the exit code, and each of them leaves one stream alone. -/
theorem run_switches (json verbose : Bool) (name : Text) :
    (run { i with json := json, verbose := verbose } name).exitCode = (i.run name).exitCode ∧
      (run { i with verbose := verbose } name).stdout = (i.run name).stdout ∧
      (run { i with json := json } name).stderr = (i.run name).stderr := by
  simp only [run]
  cases Dialect.ofName name with
  | error e => exact ⟨rfl, rfl, rfl⟩
  | ok dialect =>
    simp only
    cases dialect.compile i.table (Params.ofQueryString i.query) with
    | error e => exact ⟨rfl, rfl, rfl⟩
    | ok c => exact ⟨rfl, rfl, rfl⟩

/-- Without a dialect only its name is reported. -/
theorem run_of_unknown {name : Text} (h : Dialect.ofName? name = none) :
    i.run name = ⟨1, [], errorLine (.unsupportedDialect name)⟩ := by
  rw [run, Dialect.ofName, h]

end Invocation

/-- The program is a front end of `compile`. Every invocation can be asked for, and however it is
asked for, the report is about the outcome of `compile` on its table, its parameters and the dialect
name that counts: what is compiled is read back from the standard output, as JSON or as a listing.
The line on the dialect comes exactly when that is the name of one. Of two invocations that differ
in reporting more, output and exit code are the same; of two that differ in JSON, the standard error
and the exit code; and without a dialect, of two with the same dialect name, the whole report. -/
theorem run_faithful (i : Invocation) (environment : Option Text) :
    Invocation.ofArguments i.commandLine = .ok i ∧
      ∀ args : List Text, Invocation.ofArguments args = .ok i →
        (run args environment).Reflects i.json
            (compile i.table (Params.ofQueryString i.query) (i.dialectName environment)) ∧
          (∀ dialect : Dialect, configuredLine dialect <+: (run args environment).stderr ↔
            Dialect.ofName? (i.dialectName environment) = some dialect) ∧
          ∀ (args' : List Text) (i' : Invocation), Invocation.ofArguments args' = .ok i' →
            ((∃ verbose, i' = { i with verbose := verbose }) →
              (run args' environment).stdout = (run args environment).stdout ∧
                (run args' environment).exitCode = (run args environment).exitCode) ∧
            ((∃ json, i' = { i with json := json }) →
              (run args' environment).stderr = (run args environment).stderr ∧
                (run args' environment).exitCode = (run args environment).exitCode) ∧
            (Dialect.ofName? (i.dialectName environment) = none →
              i'.dialectName environment = i.dialectName environment →
                run args' environment = run args environment) := by
  refine ⟨i.ofArguments_commandLine, fun args asked => ?_⟩
  rw [run_of_ofArguments environment asked]
  refine ⟨Invocation.run_reflects, fun dialect => Invocation.configuredLine_prefix_run_iff,
    fun args' i' asked' => ?_⟩
  rw [run_of_ofArguments environment asked']
  refine ⟨?_, ?_, fun unknown same => ?_⟩
  · rintro ⟨verbose, rfl⟩
    obtain ⟨exitCode, stdout, -⟩ := i.run_switches i.json verbose (i.dialectName environment)
    exact ⟨stdout, exitCode⟩
  · rintro ⟨json, rfl⟩
    obtain ⟨exitCode, -, stderr⟩ := i.run_switches json i.verbose (i.dialectName environment)
    exact ⟨stderr, exitCode⟩
  · rw [same, Invocation.run_of_unknown unknown, Invocation.run_of_unknown unknown]

/-- The option wins over the environment, a table that is no identifier is reported behind the line
on the dialect, and without a dialect it is not reported. -/
theorem run_faithful_streams :
    let args : List Text := ["-vd", "pg", "users", "age=gt.20"]
    let i : Invocation := ⟨some "pg".toList, "users", "age=gt.20", false, true⟩
    let silent : Invocation := { i with verbose := false }
    let object : Invocation := { i with json := true }
    let misnamed : Invocation := ⟨none, "a b", "id=eq.1", true, false⟩
    let named : Invocation := ⟨none, "users", "limit=1", false, false⟩
    let environment : Option Text := some "oracle".toList
    let c : Compiled := ⟨"SELECT * FROM \"users\"\nWHERE \"age\" > ?", ["20"]⟩
    let listing : Text := "SELECT * FROM \"users\"\nWHERE \"age\" > ?\n\n  $1 = \"20\"\n"
    let json : Text :=
      "\x7b\n  \"sql\": \"SELECT * FROM \\\"users\\\"\\nWHERE \\\"age\\\" > ?\",\n" ++
        "  \"bindings\": [\n    \"20\"\n  ]\n\x7d\n"
    let log : Text :=
      " INFO compiler configured dialect=postgres\n" ++
        "DEBUG compiled query table=\"users\" dialect=postgres bindings=1\n"
    (Invocation.ofArguments args = .ok i ∧
        Invocation.ofArguments silent.commandLine = .ok silent ∧
        Invocation.ofArguments object.commandLine = .ok object ∧
        (i.outcome environment = .ok c ∧ run args environment = ⟨0, listing, log⟩ ∧
          Lists listing c ∧ Json.read? json = some (jsonValue c)) ∧
        run object.commandLine environment = ⟨0, json, log⟩ ∧
        (run silent.commandLine environment).stdout = listing) ∧
      Invocation.ofArguments misnamed.commandLine = .ok misnamed ∧
        (misnamed.outcome none = .error (.invalidIdentifier "a b") ∧
          (run misnamed.commandLine none).exitCode = 1 ∧
          configuredLine .postgres <+: (run misnamed.commandLine none).stderr ∧
          errorLine (.invalidIdentifier "a b") <:+ (run misnamed.commandLine none).stderr) ∧
        Dialect.ofName? "oracle" = none ∧
          run named.commandLine environment = run misnamed.commandLine environment := by
  intro args i silent object misnamed named environment c listing json log
  have asked : Invocation.ofArguments args = .ok i := by decide +kernel
  have unknown : Dialect.ofName? "oracle" = none := by decide +kernel
  have known : Dialect.ofName? (misnamed.dialectName none) = some .postgres := by decide +kernel
  have failed : misnamed.outcome none = .error (.invalidIdentifier "a b") := by
    rw [Invocation.outcome, compile_of_ofName? known]
    exact Dialect.compile_eq_error_iff.2 (.inl ⟨by decide, rfl⟩)
  have outcome : i.outcome environment = .ok c := by decide +kernel
  have askedSilent := (run_faithful silent environment).1
  have askedNamed := (run_faithful named environment).1
  obtain ⟨askedMisnamed, all⟩ := run_faithful misnamed none
  obtain ⟨askedObject, objects⟩ := run_faithful object environment
  obtain ⟨reflects, -, others⟩ := (run_faithful i environment).2 args asked
  obtain ⟨reflectsObject, -⟩ := objects object.commandLine askedObject
  obtain ⟨reflectsMisnamed, line, -⟩ := all misnamed.commandLine askedMisnamed
  obtain ⟨one, -, message⟩ := reflectsMisnamed.error _ failed
  obtain ⟨-, -, oracle⟩ :=
    (run_faithful misnamed environment).2 misnamed.commandLine askedMisnamed
  -- The texts themselves are a computation, and what they show is known of every run.
  have report : run args environment = ⟨0, listing, log⟩ := by decide +kernel
  have reportObject : run object.commandLine environment = ⟨0, json, log⟩ := by decide +kernel
  have shown := reflects.shown c outcome
  have shownObject := reflectsObject.shown c outcome
  have same := ((others _ silent askedSilent).1 ⟨false, rfl⟩).1
  rw [report] at shown same
  rw [reportObject] at shownObject
  exact ⟨⟨asked, askedSilent, askedObject,
      ⟨outcome, report, shown.lists rfl, shownObject.object rfl⟩, reportObject, same⟩,
    askedMisnamed, ⟨failed, one, (line .postgres).2 known, message⟩, unknown,
    (oracle _ named askedNamed).2.2 unknown rfl⟩

/-! ## Reading the standard output -/

/-- A successful run has compiled a query, and that is what its standard output shows. -/
theorem exists_shows_of_run {args : List Text} {environment : Option Text} {i : Invocation}
    (asked : Invocation.ofArguments args = .ok i) (success : (run args environment).exitCode = 0) :
    ∃ c, i.outcome environment = .ok c ∧ Shows i.json (run args environment).stdout c := by
  rw [run_of_ofArguments environment asked] at success ⊢
  have reflects : (i.run (i.dialectName environment)).Reflects i.json (i.outcome environment) :=
    Invocation.run_reflects
  obtain ⟨c, outcome⟩ := reflects.exitCode.1 success
  exact ⟨c, outcome, reflects.shown c outcome⟩

/-- The standard output of a successful run determines what was compiled. With JSON it is read back
as an object of the text and the values. Otherwise it is a listing with the lines of the text, an
empty line and one line for each value, numbered from one on and without a control, and no other
line starts like one of these. Two successful runs with the same output in the same form have
compiled the same. -/
theorem run_determines {args : List Text} {environment : Option Text} {i : Invocation}
    (asked : Invocation.ofArguments args = .ok i) (success : (run args environment).exitCode = 0) :
    ∃ c, i.outcome environment = .ok c ∧
      (i.json = true → Json.read? (run args environment).stdout = some (jsonValue c)) ∧
      (i.json = false → Lists (run args environment).stdout c) ∧
      ∀ (args' : List Text) (environment' : Option Text) (i' : Invocation),
        Invocation.ofArguments args' = .ok i' → (run args' environment').exitCode = 0 →
        i'.json = i.json → (run args' environment').stdout = (run args environment).stdout →
          ∃ c', i'.outcome environment' = .ok c' ∧ c'.sql = c.sql ∧ c'.bindings = c.bindings := by
  obtain ⟨c, outcome, shows⟩ := exists_shows_of_run asked success
  refine ⟨c, outcome, shows.object, shows.lists,
    fun args' environment' i' asked' success' mode same => ?_⟩
  obtain ⟨c', outcome', shows'⟩ := exists_shows_of_run asked' success'
  rw [mode, same] at shows'
  obtain rfl : c' = c := shows'.eq shows
  exact ⟨c', outcome', rfl, rfl⟩

/-- A value that imitates the line of another one, behind a statement with an empty line in it. -/
theorem run_determines_forged :
    let query : Text := "select=COUNT(%0A%0Aid)&note=eq.x%0A  $2 = %22y%22"
    let args : List Text := ["users", query]
    let args' : List Text := ["-d", "pg", "--", "users", query]
    let i : Invocation := ⟨none, "users", query, false, false⟩
    let i' : Invocation := { i with dialect := some "pg".toList }
    let environment : Option Text := some "mysql".toList
    let c : Compiled :=
      ⟨"SELECT COUNT(\n\nid) FROM \"users\"\nWHERE \"note\" = ?", ["x\n  $2 = \"y\""]⟩
    (Invocation.ofArguments args = .ok i ∧ (run args none).exitCode = 0) ∧
      i.outcome none = .ok c ∧ Lists (run args none).stdout c ∧
      (Invocation.ofArguments args' = .ok i' ∧ (run args' environment).exitCode = 0 ∧
        (run args' environment).stdout = (run args none).stdout) ∧
      ∃ c', i'.outcome environment = .ok c' ∧ c'.sql = c.sql ∧ c'.bindings = c.bindings := by
  intro query args args' i i' environment c
  have asked : Invocation.ofArguments args = .ok i := by decide +kernel
  have asked' : Invocation.ofArguments args' = .ok i' := by decide +kernel
  have zero : (run args none).exitCode = 0 := by decide +kernel
  have zero' : (run args' environment).exitCode = 0 := by decide +kernel
  have same : (run args' environment).stdout = (run args none).stdout := by decide +kernel
  have outcome : i.outcome none = .ok c := by decide +kernel
  obtain ⟨c₀, outcome₀, -, listed, others⟩ := run_determines asked zero
  obtain rfl : c = c₀ := Except.ok.inj (outcome.symm.trans outcome₀)
  exact ⟨⟨asked, zero⟩, outcome, listed rfl, ⟨asked', zero', same⟩,
    others args' environment i' asked' zero' rfl same⟩

end Console

end FilterSql
