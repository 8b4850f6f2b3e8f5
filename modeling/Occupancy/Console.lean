/-
Module: Occupancy.Console
Purpose: Run summaries as lines for a terminal.
Main exports: consoleReport
-/
import Occupancy.Decimal.Fixed
import Occupancy.Summary

namespace Occupancy

/-- The line of one benchmark. -/
def benchmarkLine (b : BenchmarkAverage) : String :=
  "    " ++ b.benchmark ++ " : " ++ Decimal.fixed b.average ++ "\n"

/-- The line of a grand average; a run without kernels has none. -/
def averageLine (average : Option Float) : String :=
  match average with
  | some x => "  Average: " ++ Decimal.fixed x ++ "\n"
  | none => ""

/-- The lines of one run. -/
def runLines (run : RunSummary) : String :=
  run.name ++ "\n" ++ String.join (run.benchmarks.map benchmarkLine) ++ averageLine run.average

/-- The lines of all runs. -/
def consoleReport (runs : List RunSummary) : String := String.join (runs.map runLines)

end Occupancy
