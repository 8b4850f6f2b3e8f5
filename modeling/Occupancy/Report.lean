/-
Module: Occupancy.Report
Purpose: The report of a collection and its text.
Main exports: Report, Report.ofCollection, Report.text, Report.parse
-/
import Occupancy.Collection
import Occupancy.Json.Reader
import Occupancy.Summary
import Occupancy.Timestamp

namespace Occupancy

/-- What a report is about: the version of its form and of the tool, when it was made, the directory
that was scanned, and the benchmarks. -/
structure ReportMeta where
  schemaVersion : Nat
  version : String
  timestamp : Timestamp
  input : String
  benchmarks : List String
deriving Repr, Inhabited

/-- A log that was looked for and not found. -/
structure MissingEntry where
  runName : String
  runNumber : String
  benchmark : String
  path : String
deriving DecidableEq, Repr, Inhabited

/-- Counts over a whole scan: distinct run names, folders, missing logs, kernels, and runs without
kernels. -/
structure ReportTotals where
  runs : Nat
  folders : Nat
  missingLogs : Nat
  kernels : UInt64
  emptyRuns : Nat
deriving DecidableEq, Repr, Inhabited

/-- All that is reported of a scan. -/
structure Report where
  about : ReportMeta
  runs : List RunSummary
  missing : List MissingEntry
  totals : ReportTotals
deriving Repr, Inhabited

namespace Report

/-- The version of the form that reports have. -/
def schemaVersion : Nat := 1

/-- The version of the tool. -/
def toolVersion : String := "0.1.0"

/-- The entry of a missing log, its path made readable. -/
def missingEntry (log : MissingLog) : MissingEntry :=
  ⟨log.runName, log.runNumber, log.benchmark, Text.display log.path⟩

/-- Report a collection from an input directory at an instant. -/
def ofCollection (collection : Collection) (input : Bytes) (now : Timestamp) : Report :=
  let runs := summarize collection.store
  { about :=
      ⟨schemaVersion, toolVersion, now, Text.display input, collection.store.benchmarks⟩
    runs
    missing := collection.missing.map missingEntry
    totals :=
      { runs := runs.length
        folders := collection.folders
        missingLogs := collection.missing.length
        kernels := runs.foldl (fun sum run => saturatingAdd sum run.kernels) 0
        emptyRuns := (runs.filter (·.kernels == 0)).length } }

/-! ### Writing -/

/-- Strings in an array. -/
def stringsJson (strings : List String) : Json := .array (strings.map .string)

/-- What a report is about, as JSON. -/
def metaJson (m : ReportMeta) : Json :=
  .object [("schema_version", .natural m.schemaVersion), ("version", .string m.version),
    ("timestamp", .string m.timestamp.text), ("input_dir", .string m.input),
    ("benchmarks", stringsJson m.benchmarks)]

/-- A benchmark of a run, as JSON. -/
def benchmarkJson (b : BenchmarkAverage) : Json :=
  .object [("benchmark", .string b.benchmark), ("total", .natural b.total.toNat),
    ("num_kernel", .natural b.kernels.toNat), ("average", .float b.average)]

/-- A run, as JSON. -/
def runJson (run : RunSummary) : Json :=
  .object [("name", .string run.name), ("benchmarks", .array (run.benchmarks.map benchmarkJson)),
    ("total", .natural run.total.toNat), ("num_kernel", .natural run.kernels.toNat),
    ("average", (run.average.map .float).getD .null)]

/-- A missing log, as JSON. -/
def missingJson (m : MissingEntry) : Json :=
  .object [("run_name", .string m.runName), ("run_number", .string m.runNumber),
    ("benchmark", .string m.benchmark), ("path", .string m.path)]

/-- The counts, as JSON. -/
def totalsJson (t : ReportTotals) : Json :=
  .object [("total_runs", .natural t.runs), ("folders_scanned", .natural t.folders),
    ("missing_logs", .natural t.missingLogs), ("total_kernels", .natural t.kernels.toNat),
    ("empty_runs", .natural t.emptyRuns)]

/-- A report, as JSON. -/
def toJson (r : Report) : Json :=
  .object [("meta", metaJson r.about), ("runs", .array (r.runs.map runJson)),
    ("missing_logs", .array (r.missing.map missingJson)), ("summary", totalsJson r.totals)]

/-- The text of a report. -/
def text (r : Report) : String := String.ofList r.toJson.pretty

/-! ### Reading -/

open Json (Field Reader)

/-- A field that has to be there. -/
def field (name : String) (reader : Reader) : Field := ⟨name, reader, none⟩

/-- A number of 32 bits. -/
def word32 : Reader := Json.Read.natural UInt32.size

/-- A number of 64 bits. -/
def word64 : Reader := Json.Read.natural UInt64.size

/-- The fields of what a report is about. -/
def metaReader : Reader :=
  Json.Read.record [field "schema_version" word32, field "version" Json.Read.string,
    field "timestamp" (Json.Read.checked fun text => (Timestamp.parse? text).isSome),
    field "input_dir" Json.Read.string, field "benchmarks" (Json.Read.list Json.Read.string)]

/-- The fields of a benchmark of a run. -/
def benchmarkReader : Reader :=
  Json.Read.record [field "benchmark" Json.Read.string, field "total" word64,
    field "num_kernel" word64, field "average" Json.Read.float]

/-- The fields of a run. The average of a run without kernels may be left out. -/
def runReader : Reader :=
  Json.Read.record [field "name" Json.Read.string,
    field "benchmarks" (Json.Read.list benchmarkReader), field "total" word64,
    field "num_kernel" word64, ⟨"average", Json.Read.nullable Json.Read.float, some .null⟩]

/-- The fields of a missing log. -/
def missingReader : Reader :=
  Json.Read.record [field "run_name" Json.Read.string, field "run_number" Json.Read.string,
    field "benchmark" Json.Read.string, field "path" Json.Read.string]

/-- The fields of the counts. -/
def totalsReader : Reader :=
  Json.Read.record [field "total_runs" word64, field "folders_scanned" word64,
    field "missing_logs" word64, field "total_kernels" word64, field "empty_runs" word64]

/-- The fields of a report. -/
def reader : Reader :=
  Json.Read.record [field "meta" metaReader, field "runs" (Json.Read.list runReader),
    field "missing_logs" (Json.Read.list missingReader), field "summary" totalsReader]

/-- The string that a value is. -/
def string? : Json → Option String
  | .string s => some s
  | _ => none

/-- What a report is about, from JSON. -/
def meta? : Json → Option ReportMeta
  | .object [(_, .natural schemaVersion), (_, .string version), (_, .string timestamp),
      (_, .string input), (_, .array benchmarks)] => do
    return ⟨schemaVersion, version, ← Timestamp.parse? timestamp, input,
      ← benchmarks.mapM string?⟩
  | _ => none

/-- A benchmark of a run, from JSON. -/
def benchmark? : Json → Option BenchmarkAverage
  | .object [(_, .string benchmark), (_, .natural total), (_, .natural kernels),
      (_, .float average)] =>
    some ⟨benchmark, UInt64.ofNat total, UInt64.ofNat kernels, average⟩
  | _ => none

/-- An average, or none. -/
def average? : Json → Option (Option Float)
  | .float x => some (some x)
  | .null => some none
  | _ => none

/-- A run, from JSON. -/
def run? : Json → Option RunSummary
  | .object [(_, .string name), (_, .array benchmarks), (_, .natural total),
      (_, .natural kernels), (_, average)] => do
    return ⟨name, ← benchmarks.mapM benchmark?, UInt64.ofNat total, UInt64.ofNat kernels,
      ← average? average⟩
  | _ => none

/-- A missing log, from JSON. -/
def missing? : Json → Option MissingEntry
  | .object [(_, .string runName), (_, .string runNumber), (_, .string benchmark),
      (_, .string path)] => some ⟨runName, runNumber, benchmark, path⟩
  | _ => none

/-- The counts, from JSON. -/
def totals? : Json → Option ReportTotals
  | .object [(_, .natural runs), (_, .natural folders), (_, .natural missingLogs),
      (_, .natural kernels), (_, .natural emptyRuns)] =>
    some ⟨runs, folders, missingLogs, UInt64.ofNat kernels, emptyRuns⟩
  | _ => none

/-- A report, from JSON. -/
def ofJson? : Json → Option Report
  | .object [(_, about), (_, .array runs), (_, .array missing), (_, totals)] => do
    return ⟨← meta? about, ← runs.mapM run?, ← missing.mapM missing?, ← totals? totals⟩
  | _ => none

/-- Read the text of a report. -/
def parse (text : String) : Except Json.Fault Report := do
  match ofJson? (← Json.readAll reader text.toList) with
  | some report => return report
  | none => throw .mismatch

end Report
end Occupancy
