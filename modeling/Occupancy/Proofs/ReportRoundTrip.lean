/-
Module: Occupancy.Proofs.ReportRoundTrip
Purpose: What the text of a report is read back as.
Main exports: Report.averages, Report.reread, Report.parse_text, Report.reread_eq_iff,
  parse_text_ofCollection
-/
import Mathlib
import Occupancy.Proofs.DoubleText
import Occupancy.Proofs.ReportAgreement
import Occupancy.Proofs.TimestampText
import Occupancy.Report

namespace Occupancy

/-!
Of all that a report holds only its averages can change on the way through its text. A report that
is read is therefore the written one with other averages, which say what the digits of the written
ones are read as; it is the same report exactly if each of its averages comes back.
-/

/-! ### What is read -/

/-- A benchmark with its average as it is read. -/
def BenchmarkAverage.reread (b : BenchmarkAverage) : BenchmarkAverage :=
  { b with average := Json.reread b.average }

/-- A run with its averages as they are read. -/
def RunSummary.reread (run : RunSummary) : RunSummary :=
  { run with
    benchmarks := run.benchmarks.map BenchmarkAverage.reread
    average := run.average.map Json.reread }

/-- The averages of a run: its own, if there is one, and those of its benchmarks. -/
def RunSummary.averages (run : RunSummary) : List Float :=
  run.average.toList ++ run.benchmarks.map (·.average)

namespace Report

/-- A report with its averages as they are read. -/
def reread (r : Report) : Report := { r with runs := r.runs.map RunSummary.reread }

/-- All averages of a report. -/
def averages (r : Report) : List Float := r.runs.flatMap RunSummary.averages

/-- What a report can be: the numbers that are not words already are below their bounds, its instant
can be read, and its averages are quotients. -/
structure WellFormed (r : Report) : Prop where
  schema : r.about.schemaVersion < UInt32.size
  instant : r.about.timestamp.Valid
  runs : r.totals.runs < UInt64.size
  folders : r.totals.folders < UInt64.size
  missingLogs : r.totals.missingLogs < UInt64.size
  emptyRuns : r.totals.emptyRuns < UInt64.size
  averages : ∀ x ∈ r.averages, Json.IsAverage x

/-! ### Each part of a text -/

section Parts

open Json (Reads Entry)

/-- A number below the bound of a word is read as it is. -/
theorem reads_word64 {n : Nat} (small : n < UInt64.size) :
    Reads word64 (.natural n) (.natural n) :=
  .natural small small

/-- A word is read as it is. -/
theorem reads_toNat (n : UInt64) : Reads word64 (.natural n.toNat) (.natural n.toNat) :=
  reads_word64 n.toNat_lt

/-- A list is read item by item. -/
theorem reads_map {α : Type} {reader : Json.Reader} {write read : α → Json} {items : List α}
    (each : ∀ item ∈ items, Reads reader (write item) (read item)) :
    Reads (Json.Read.list reader) (.array (items.map write)) (.array (items.map read)) := by
  refine .list ?_
  rw [List.forall₂_map_left_iff, List.forall₂_map_right_iff, List.forall₂_same]
  exact each

/-- An instant is read as it is. -/
theorem reads_timestamp {t : Timestamp} (valid : t.Valid) :
    Reads (Json.Read.checked fun text => (Timestamp.parse? text).isSome) (.string t.text)
      (.string t.text) :=
  .checked (by rw [Timestamp.parse?_text valid]; rfl)

/-- What a report is about is read as it is. -/
theorem reads_meta {m : ReportMeta} (schema : m.schemaVersion < UInt32.size)
    (instant : m.timestamp.Valid) : Reads metaReader (metaJson m) (metaJson m) := by
  have small : m.schemaVersion < Json.significandLimit := schema.trans (by decide)
  refine .record
    [.kept (field "schema_version" word32) (.natural m.schemaVersion),
      .kept (field "version" Json.Read.string) (.string m.version),
      .kept (field "timestamp" (Json.Read.checked fun text => (Timestamp.parse? text).isSome))
        (.string m.timestamp.text),
      .kept (field "input_dir" Json.Read.string) (.string m.input),
      .kept (field "benchmarks" (Json.Read.list Json.Read.string)) (stringsJson m.benchmarks)]
    (by simp [field]) (List.forall_iff_forall_mem.mp ?_)
  exact ⟨.natural schema small, .string _, reads_timestamp instant, .string _,
    reads_map fun _ _ => .string _⟩

/-- A benchmark is read with its average reread. -/
theorem reads_benchmark {b : BenchmarkAverage} (average : Json.IsAverage b.average) :
    Reads benchmarkReader (benchmarkJson b) (benchmarkJson b.reread) := by
  refine .record
    [.kept (field "benchmark" Json.Read.string) (.string b.benchmark),
      .kept (field "total" word64) (.natural b.total.toNat),
      .kept (field "num_kernel" word64) (.natural b.kernels.toNat),
      ⟨field "average" Json.Read.float, .float b.average, .float (Json.reread b.average)⟩]
    (by simp [field]) (List.forall_iff_forall_mem.mp ?_)
  exact ⟨.string _, reads_toNat _, reads_toNat _, (Json.reads_float average).1⟩

/-- The average of a run is read as a null if there is none, and reread if there is one. -/
theorem reads_average {average : Option Float} (quotient : ∀ x ∈ average, Json.IsAverage x) :
    Reads (Json.Read.nullable Json.Read.float) ((average.map .float).getD .null)
      (((average.map Json.reread).map .float).getD .null) := by
  cases average with
  | none => exact .null _
  | some x =>
    rcases Json.reads_float (quotient x rfl) with ⟨reads, differs⟩
    exact .nullable reads fun _ => differs

/-- A run is read with its averages reread. -/
theorem reads_run {run : RunSummary} (averages : ∀ x ∈ run.averages, Json.IsAverage x) :
    Reads runReader (runJson run) (runJson run.reread) := by
  have benchmarks : Reads (Json.Read.list benchmarkReader)
      (.array (run.benchmarks.map benchmarkJson))
      (.array ((run.benchmarks.map BenchmarkAverage.reread).map benchmarkJson)) := by
    rw [List.map_map]
    refine reads_map fun b b_mem => reads_benchmark (averages _ ?_)
    exact List.mem_append_right _ (List.mem_map_of_mem b_mem)
  have quotient : ∀ x ∈ run.average, Json.IsAverage x := fun x x_mem =>
    averages x (List.mem_append_left _ (Option.mem_toList.mpr x_mem))
  refine .record
    [.kept (field "name" Json.Read.string) (.string run.name),
      ⟨field "benchmarks" (Json.Read.list benchmarkReader), _, _⟩,
      .kept (field "total" word64) (.natural run.total.toNat),
      .kept (field "num_kernel" word64) (.natural run.kernels.toNat),
      ⟨⟨"average", Json.Read.nullable Json.Read.float, some .null⟩, _, _⟩]
    (by simp [field]) (List.forall_iff_forall_mem.mp ?_)
  exact ⟨.string _, benchmarks, reads_toNat _, reads_toNat _, reads_average quotient⟩

/-- A missing log is read as it is. -/
theorem reads_missing (m : MissingEntry) : Reads missingReader (missingJson m) (missingJson m) := by
  refine .record
    [.kept (field "run_name" Json.Read.string) (.string m.runName),
      .kept (field "run_number" Json.Read.string) (.string m.runNumber),
      .kept (field "benchmark" Json.Read.string) (.string m.benchmark),
      .kept (field "path" Json.Read.string) (.string m.path)]
    (by simp [field]) (List.forall_iff_forall_mem.mp ?_)
  exact ⟨.string _, .string _, .string _, .string _⟩

variable {r : Report}

/-- The counts are read as they are. -/
theorem reads_totals (wellFormed : r.WellFormed) :
    Reads totalsReader (totalsJson r.totals) (totalsJson r.totals) := by
  refine .record
    [.kept (field "total_runs" word64) (.natural r.totals.runs),
      .kept (field "folders_scanned" word64) (.natural r.totals.folders),
      .kept (field "missing_logs" word64) (.natural r.totals.missingLogs),
      .kept (field "total_kernels" word64) (.natural r.totals.kernels.toNat),
      .kept (field "empty_runs" word64) (.natural r.totals.emptyRuns)]
    (by simp [field]) (List.forall_iff_forall_mem.mp ?_)
  exact ⟨reads_word64 wellFormed.runs, reads_word64 wellFormed.folders,
    reads_word64 wellFormed.missingLogs, reads_toNat _, reads_word64 wellFormed.emptyRuns⟩

/-- A report is read with its averages reread. -/
theorem reads_report (wellFormed : r.WellFormed) : Reads reader r.toJson r.reread.toJson := by
  have runs : Reads (Json.Read.list runReader) (.array (r.runs.map runJson))
      (.array ((r.runs.map RunSummary.reread).map runJson)) := by
    rw [List.map_map]
    refine reads_map fun run run_mem => reads_run fun x x_mem => wellFormed.averages x ?_
    exact List.mem_flatMap_of_mem run_mem x_mem
  refine .record
    [.kept (field "meta" metaReader) (metaJson r.about),
      ⟨field "runs" (Json.Read.list runReader), _, _⟩,
      .kept (field "missing_logs" (Json.Read.list missingReader))
        (.array (r.missing.map missingJson)),
      .kept (field "summary" totalsReader) (totalsJson r.totals)]
    (by simp [field]) (List.forall_iff_forall_mem.mp ?_)
  exact ⟨reads_meta wellFormed.schema wellFormed.instant, runs,
    reads_map fun m _ => reads_missing m, reads_totals wellFormed⟩

end Parts

/-! ### From JSON -/

/-- A list that is made of items, each of which is found again, is found again. -/
theorem mapM_map {α β : Type} {write : α → β} {read : β → Option α} {items : List α}
    (each : ∀ item ∈ items, read (write item) = some item) :
    (items.map write).mapM read = some items := by
  induction items with
  | nil => rfl
  | cons item items inductionHypothesis =>
    rw [List.map_cons, List.mapM_cons, each item List.mem_cons_self,
      inductionHypothesis fun other other_mem => each other (List.mem_cons_of_mem item other_mem)]
    rfl

/-- What a report is about is found again in its JSON. -/
theorem meta?_metaJson {m : ReportMeta} (instant : m.timestamp.Valid) :
    meta? (metaJson m) = some m := by
  have strings : (m.benchmarks.map Json.string).mapM string? = some m.benchmarks :=
    mapM_map fun _ _ => rfl
  simp only [metaJson, stringsJson, meta?, Timestamp.parse?_text instant, strings]
  rfl

/-- A benchmark is found again in its JSON. -/
theorem benchmark?_benchmarkJson (b : BenchmarkAverage) :
    benchmark? (benchmarkJson b) = some b := by
  simp only [benchmarkJson, benchmark?, UInt64.ofNat_toNat]

/-- A run is found again in its JSON. -/
theorem run?_runJson (run : RunSummary) : run? (runJson run) = some run := by
  have benchmarks : (run.benchmarks.map benchmarkJson).mapM benchmark? = some run.benchmarks :=
    mapM_map fun b _ => benchmark?_benchmarkJson b
  have average : average? ((run.average.map Json.float).getD .null) = some run.average := by
    cases run.average <;> rfl
  simp only [runJson, run?, benchmarks, average, UInt64.ofNat_toNat]
  rfl

/-- A report is found again in its JSON. -/
theorem ofJson?_toJson {r : Report} (instant : r.about.timestamp.Valid) :
    ofJson? r.toJson = some r := by
  have runs : (r.runs.map runJson).mapM run? = some r.runs := mapM_map fun run _ => run?_runJson run
  have missing : (r.missing.map missingJson).mapM missing? = some r.missing :=
    mapM_map fun _ _ => rfl
  have totals : totals? (totalsJson r.totals) = some r.totals := by
    simp only [totalsJson, totals?, UInt64.ofNat_toNat]
  simp only [toJson, ofJson?, meta?_metaJson instant, runs, missing, totals]
  rfl

/-- The text of a report is read, and as the report with its averages reread. -/
theorem parse_text {r : Report} (wellFormed : r.WellFormed) : parse r.text = .ok r.reread := by
  have instant : r.reread.about.timestamp.Valid := wellFormed.instant
  simp only [parse, text, String.toList_ofList, (reads_report wellFormed).readAll,
    ofJson?_toJson instant, bind, Except.bind]
  rfl

/-! ### When a report comes back -/

/-- A list keeps its items exactly if each of them is kept. -/
theorem map_eq_self_iff {α : Type} {f : α → α} {items : List α} :
    items.map f = items ↔ ∀ item ∈ items, f item = item := by
  nth_rewrite 2 [← List.map_id items]
  exact List.map_inj_left

/-- A benchmark comes back exactly if its average does. -/
theorem benchmark_reread_eq_iff {b : BenchmarkAverage} :
    b.reread = b ↔ Json.reread b.average = b.average := by
  rcases b with ⟨name, total, kernels, average⟩
  simp only [BenchmarkAverage.reread, BenchmarkAverage.mk.injEq, true_and]

/-- A run comes back exactly if its averages do. -/
theorem run_reread_eq_iff {run : RunSummary} :
    run.reread = run ↔ ∀ x ∈ run.averages, Json.reread x = x := by
  rcases run with ⟨name, benchmarks, total, kernels, average⟩
  have own : average.map Json.reread = average ↔ ∀ x ∈ average.toList, Json.reread x = x := by
    cases average <;> simp
  simp only [RunSummary.reread, RunSummary.averages, RunSummary.mk.injEq, true_and, own,
    List.forall_mem_append, List.forall_mem_map, map_eq_self_iff, benchmark_reread_eq_iff]
  exact and_comm

/-- A report comes back exactly if each of its averages does. -/
theorem reread_eq_iff {r : Report} : r.reread = r ↔ ∀ x ∈ r.averages, Json.reread x = x := by
  rcases r with ⟨about, runs, missing, totals⟩
  simp only [reread, averages, mk.injEq, true_and, and_true, map_eq_self_iff, run_reread_eq_iff,
    List.forall_mem_flatMap]

/-- The average of a run that is read is none exactly if that of the written run is. -/
theorem reread_average_eq_none_iff {run : RunSummary} :
    run.reread.average = none ↔ run.average = none :=
  Option.map_eq_none_iff

end Report

/-! ### Reports of collections -/

/-- The average of some samples is a quotient. -/
theorem isAverage_of_average {total count : UInt64} {x : Float}
    (found : average total count = some x) : Json.IsAverage x := by
  rw [average] at found
  split at found
  case isTrue => cases found
  case isFalse counted =>
    cases found
    refine Json.isAverage_div total (Nat.pos_of_ne_zero fun zero => ?_)
    exact counted (UInt64.toNat_inj.mp zero)

/-- All averages of a summary are quotients, or zeros of benchmarks without samples. -/
theorem isAverage_of_mem_averages {run : Run} {benchmarks : List String} {x : Float}
    (x_mem : x ∈ (summarizeRun run benchmarks).averages) : Json.IsAverage x := by
  rcases List.mem_append.mp x_mem with own | listed
  · exact isAverage_of_average (Option.mem_toList.mp own)
  · rcases List.mem_map.mp listed with ⟨b, b_mem, rfl⟩
    rcases List.mem_map.mp b_mem with ⟨benchmark, -, rfl⟩
    simp only [benchmarkAverage]
    generalize (run.get? benchmark).getD .empty = bucket
    cases found : average bucket.total bucket.kernels with
    | none => exact .inl rfl
    | some x => exact isAverage_of_average found

/-- The report of a collection is well formed if the machine can count its parts and has the
instant. -/
theorem wellFormed_ofCollection (collection : Collection) (input : Bytes) {now : Timestamp}
    (valid : now.Valid) (runs : collection.store.runs.length < UInt64.size)
    (folders : collection.folders < UInt64.size)
    (missing : collection.missing.length < UInt64.size) :
    (Report.ofCollection collection input now).WellFormed := by
  have length : (summarize collection.store).length = collection.store.runs.length :=
    List.length_map _
  have schema : Report.schemaVersion < UInt32.size := by decide
  refine ⟨schema, valid, ?_, folders, missing, ?_, ?_⟩
  · exact length.trans_lt runs
  · exact (List.length_filter_le _ _).trans_lt (length.trans_lt runs)
  · intro x x_mem
    rcases List.mem_flatMap.mp x_mem with ⟨summary, summary_mem, x_mem⟩
    rcases List.mem_map.mp summary_mem with ⟨run, -, rfl⟩
    exact isAverage_of_mem_averages x_mem

/-- The text of a report is always read, and as the report with its averages reread: all else comes
back, and an average is none exactly for a run without kernels. What is read is the report exactly
if each of its averages is read as itself, and then it has the same text. That holds for every
average whose digits make a number of 53 bits and whose power of ten is a double. -/
theorem parse_text_ofCollection (collection : Collection) (input : Bytes) {now : Timestamp}
    (valid : now.Valid) (runs : collection.store.runs.length < UInt64.size)
    (folders : collection.folders < UInt64.size)
    (missing : collection.missing.length < UInt64.size) :
    let report := Report.ofCollection collection input now
    Report.parse report.text = .ok report.reread ∧
      (∀ run ∈ report.reread.runs, run.average = none ↔ run.kernels = 0) ∧
      (Report.parse report.text = .ok report ↔ ∀ x ∈ report.averages, Json.reread x = x) ∧
      (∀ read, Report.parse report.text = .ok read →
        (∀ x ∈ report.averages, Json.reread x = x) → read.text = report.text) ∧
      ∀ x ∈ report.averages, (Json.written x).1 ≤ 2 ^ 53 → (Json.written x).2.natAbs ≤ 22 →
        Json.reread x = x := by
  intro report
  have wellFormed : report.WellFormed :=
    wellFormed_ofCollection collection input valid runs folders missing
  have parsed := Report.parse_text wellFormed
  refine ⟨parsed, ?_, ?_, ?_, ?_⟩
  · intro run run_mem
    rcases List.mem_map.mp run_mem with ⟨summary, summary_mem, rfl⟩
    rcases List.mem_map.mp summary_mem with ⟨run, -, rfl⟩
    exact Report.reread_average_eq_none_iff.trans summarizeRun_average_eq_none_iff
  · rw [parsed, Except.ok.injEq, Report.reread_eq_iff]
  · intro read found same
    rw [parsed, Report.reread_eq_iff.mpr same] at found
    cases found
    rfl
  · intro x x_mem exact power
    exact Json.reread_eq (wellFormed.averages x x_mem) exact power

/-- A run with an average of an eighth, one without kernels, and a missing log whose path is no
text: the report comes back. -/
theorem parse_text_ofCollection_eighth :
    let collection : Collection :=
      ⟨⟨["vgg16", "\"\n\x01"], [⟨"a", [⟨"vgg16", .ofSums 1 8⟩]⟩, .new "b" ["vgg16"]]⟩,
        [⟨"b", "1", "vgg16", [0x62, 0xFF]⟩], 2⟩
    let report := Report.ofCollection collection [0x69, 0x6E] ⟨1700000000, 5⟩
    Report.parse report.text = .ok report := by
  intro collection report
  have valid : (⟨1700000000, 5⟩ : Timestamp).Valid := ⟨by decide, by decide, by decide, by decide⟩
  have returns := parse_text_ofCollection collection [0x69, 0x6E] valid (by decide) (by decide)
    (by decide)
  exact returns.2.2.1.mpr (by decide +kernel)

/-- The average of three samples with the sum 271 is written with sixteen digits, of which the
reader makes its neighbour: the report does not come back, and its text does not either. -/
theorem parse_text_of_third :
    let collection : Collection := ⟨⟨["vgg16"], [⟨"a", [⟨"vgg16", .ofSums 271 3⟩]⟩]⟩, [], 1⟩
    let report := Report.ofCollection collection [0x69, 0x6E] ⟨1700000000, 5⟩
    ∃ read, Report.parse report.text = .ok read ∧
      report.averages.map Json.floatText =
        ["90.33333333333333".toList, "90.33333333333333".toList] ∧
      read.averages.map Json.floatText =
        ["90.33333333333331".toList, "90.33333333333331".toList] ∧
      Report.parse report.text ≠ .ok report ∧ read.text ≠ report.text := by
  intro collection report
  have valid : (⟨1700000000, 5⟩ : Timestamp).Valid := ⟨by decide, by decide, by decide, by decide⟩
  have parsed := Report.parse_text
    (wellFormed_ofCollection collection [0x69, 0x6E] valid (by decide) (by decide)
      (by decide))
  refine ⟨_, parsed, by decide +kernel, by decide +kernel, ?_, ?_⟩
  · rw [parsed, ne_eq, Except.ok.injEq, Report.reread_eq_iff]
    decide +kernel
  · rw [Report.text, Report.text, ne_eq, String.ofList_inj]
    decide +kernel

end Occupancy
