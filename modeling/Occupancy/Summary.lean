/-
Module: Occupancy.Summary
Purpose: What the reports print of each run.
Main exports: BenchmarkAverage, RunSummary, summarizeRun, summarize
-/
import Occupancy.Store

namespace Occupancy

/-- The sums and the average of one benchmark; the average is zero without kernels. -/
structure BenchmarkAverage where
  benchmark : String
  total : UInt64
  kernels : UInt64
  average : Float
deriving Repr, Inhabited

/-- The summary of one run. The grand average weighs every kernel alike, so it is the quotient of
the sums and not the mean of the benchmarks' averages; a run without kernels has none. -/
structure RunSummary where
  name : String
  benchmarks : List BenchmarkAverage
  total : UInt64
  kernels : UInt64
  average : Option Float
deriving Repr, Inhabited

/-- The entry of one benchmark, from the first bucket of that name. -/
def benchmarkAverage (run : Run) (benchmark : String) : BenchmarkAverage :=
  let b := (run.get? benchmark).getD .empty
  ⟨benchmark, b.total, b.kernels, (average b.total b.kernels).getD 0.0⟩

/-- Summarize a run over a benchmark list: an entry per name in the list, in its order. -/
def summarizeRun (run : Run) (benchmarks : List String) : RunSummary :=
  let entries := benchmarks.map (benchmarkAverage run)
  let total := entries.foldl (fun sum e => saturatingAdd sum e.total) 0
  let kernels := entries.foldl (fun sum e => saturatingAdd sum e.kernels) 0
  ⟨run.name, entries, total, kernels, average total kernels⟩

/-- Summarize every run, in the store's order. -/
def summarize (store : Store) : List RunSummary :=
  store.runs.map (summarizeRun · store.benchmarks)

end Occupancy
