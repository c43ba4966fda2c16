/-
# FilterSql.Main -- the program

Hands the command line and the environment to `FilterSql.Console.run` and its report to the streams.
-/

import FilterSql.Console

/-- Runs the program. -/
def main (args : List String) : IO UInt32 := do
  let environment ← IO.getEnv FilterSql.Console.dialectVariable
  let report :=
    FilterSql.Console.run (args.map String.toList) (environment.map String.toList)
  (← IO.getStdout).putStr (String.ofList report.stdout)
  (← IO.getStderr).putStr (String.ofList report.stderr)
  return report.exitCode.toUInt32
