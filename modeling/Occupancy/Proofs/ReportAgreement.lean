/-
Module: Occupancy.Proofs.ReportAgreement
Purpose: The console, the worksheet and the report say the same of every run.
Main exports: summarizeRun_average_eq_none_iff, cellAverage_summarizeRun, Sheet.cellsAt,
  Sheet.cellsAt_layout, Sheet.layout_eq_error_iff, reports_agree
-/
import Mathlib
import Occupancy.Console
import Occupancy.Report
import Occupancy.Sheet.Layout

namespace Occupancy

/-!
Whether a run has kernels is decided in three ways: by its average, which is none without kernels,
by its count, and by the first run that has no average. And an entry of a run is addressed in two
ways: by its place in the list of benchmarks, and by the first entry of its name. A summary makes
both choices immaterial. Its average is the quotient of its own sums, so there is none exactly if
the count is zero, also where a sum was cut off; and the entries of one name are all the same,
because each was made from the name alone.
-/

section Summaries

/-- There is an average unless nothing was counted. -/
theorem average_eq_none_iff {total count : UInt64} : average total count = none ↔ count = 0 := by
  rw [average]
  split <;> simp_all

variable {run : Run} {benchmarks : List String}

/-- A summary lacks its average exactly if it counts no kernels. -/
theorem summarizeRun_average_eq_none_iff :
    (summarizeRun run benchmarks).average = none ↔ (summarizeRun run benchmarks).kernels = 0 :=
  average_eq_none_iff

/-- Otherwise the average is the quotient of the sums. -/
theorem summarizeRun_average_eq_some (counted : (summarizeRun run benchmarks).kernels ≠ 0) :
    (summarizeRun run benchmarks).average =
      some ((summarizeRun run benchmarks).total.toFloat /
        (summarizeRun run benchmarks).kernels.toFloat) :=
  if_neg counted

/-- The first entry of a name has the average of every entry of that name. -/
theorem cellAverage_summarizeRun {benchmark : String} (listed : benchmark ∈ benchmarks) :
    Sheet.cellAverage (summarizeRun run benchmarks) benchmark =
      (benchmarkAverage run benchmark).average := by
  have first : (summarizeRun run benchmarks).benchmarks.find? (·.benchmark == benchmark) =
      some (benchmarkAverage run benchmark) := by
    rw [summarizeRun, List.find?_map]
    obtain ⟨found, search⟩ : ∃ found, benchmarks.find?
        ((fun entry : BenchmarkAverage => entry.benchmark == benchmark) ∘
          benchmarkAverage run) = some found :=
      Option.isSome_iff_exists.mp (List.find?_isSome.mpr ⟨benchmark, listed, beq_self_eq_true _⟩)
    have same : found = benchmark := eq_of_beq (List.find?_some search :)
    rw [search, same]
    rfl
  rw [Sheet.cellAverage, first]
  rfl

/-- What stands at a place of a list of summaries is the summary of the run at that place. -/
theorem getElem?_summarize {store : Store} {i : Nat} {summary : RunSummary} :
    (summarize store)[i]? = some summary ↔
      ∃ run, store.runs[i]? = some run ∧ summarizeRun run store.benchmarks = summary := by
  rw [summarize, List.getElem?_map, Option.map_eq_some_iff]

theorem mem_summarize {store : Store} {summary : RunSummary} :
    summary ∈ summarize store ↔
      ∃ run ∈ store.runs, summarizeRun run store.benchmarks = summary := List.mem_map

/-- A summary in a list of them lacks its average exactly if it counts no kernels. -/
theorem average_eq_none_iff_of_mem {store : Store} {summary : RunSummary}
    (member : summary ∈ summarize store) : summary.average = none ↔ summary.kernels = 0 := by
  obtain ⟨run, -, rfl⟩ := mem_summarize.mp member
  exact summarizeRun_average_eq_none_iff

end Summaries

namespace Sheet

/-- The cells at a place. -/
def cellsAt (cells : List Cell) (row column : Nat) : List Cell :=
  cells.filter fun cell => cell.row == row && cell.column == column

section Places

variable {α β : Type}

/-- Where only one item of a list is hit, nothing else is left of it. -/
theorem filter_mapIdx_of_hit (make : Nat → α → β) (hit : β → Bool) {items : List α} {i : Nat}
    {item : α} (there : items[i]? = some item) (hits : hit (make i item) = true)
    (misses : ∀ k other, k ≠ i → hit (make k other) = false) :
    (items.mapIdx make).filter hit = [make i item] := by
  induction items generalizing make i with
  | nil => simp at there
  | cons first rest inductionHypothesis =>
      rw [List.mapIdx_cons]
      cases i with
      | zero =>
          obtain rfl : first = item := by simpa using there
          rw [List.filter_cons_of_pos hits, List.filter_eq_nil_iff.mpr]
          intro made member
          obtain ⟨k, bound, rfl⟩ := List.mem_mapIdx.mp member
          simp [misses (k + 1)]
      | succ i =>
          rw [List.filter_cons_of_neg (by simp [misses 0])]
          exact inductionHypothesis (fun k => make (k + 1)) (by simpa using there) hits
            fun k other ne => misses (k + 1) other (by omega)

/-- Where only one block of a list of blocks is hit, what is hit is what is hit in that block. -/
theorem filter_flatten_mapIdx_of_hit (block : Nat → α → List β) (hit : β → Bool) {items : List α}
    {i : Nat} {item : α} (there : items[i]? = some item)
    (misses : ∀ k other, k ≠ i → (block k other).filter hit = []) :
    (items.mapIdx block).flatten.filter hit = (block i item).filter hit := by
  induction items generalizing block i with
  | nil => simp at there
  | cons first rest inductionHypothesis =>
      rw [List.mapIdx_cons, List.flatten_cons, List.filter_append]
      cases i with
      | zero =>
          obtain rfl : first = item := by simpa using there
          have others : ((rest.mapIdx fun k => block (k + 1)).flatten).filter hit = [] := by
            rw [List.filter_flatten, List.flatten_eq_nil_iff]
            intro left member
            obtain ⟨made, madeMember, rfl⟩ := List.mem_map.mp member
            obtain ⟨k, bound, rfl⟩ := List.mem_mapIdx.mp madeMember
            exact misses (k + 1) _ (by omega)
          rw [others, List.append_nil]
      | succ i =>
          rw [misses 0 first (by omega), List.nil_append]
          exact inductionHypothesis (fun k => block (k + 1)) (by simpa using there)
            fun k other ne => misses (k + 1) other (by omega)

end Places

variable {benchmarks : List String} {runs : List RunSummary} {cells : List Cell}

/-- The first column is the one of the names. -/
theorem column_of_mem_labelColumn {cell : Cell} (member : cell ∈ labelColumn benchmarks) :
    cell.column = 0 ∧ cell.row ≤ averageRow benchmarks := by
  rw [labelColumn, List.mem_append, List.mem_cons, List.mem_mapIdx, List.mem_singleton] at member
  rcases member with (rfl | ⟨i, bound, rfl⟩) | rfl
  · exact ⟨rfl, Nat.zero_le _⟩
  · exact ⟨rfl, Nat.add_le_add_left (Nat.le_of_lt bound) _⟩
  · exact ⟨rfl, Nat.le_refl _⟩

/-- Every cell in the column of a run stands in that column, and none below the averages. -/
theorem column_of_mem_runColumn {column : Nat} {run : RunSummary} {cell : Cell}
    (member : cell ∈ runColumn benchmarks column run) :
    cell.column = column ∧ cell.row ≤ averageRow benchmarks := by
  rw [runColumn, List.mem_append, List.mem_cons, List.mem_cons, List.mem_mapIdx,
    List.mem_map] at member
  have labels : 2 ≤ averageRow benchmarks := Nat.le_add_right _ _
  rcases member with (rfl | rfl | ⟨i, bound, rfl⟩) | ⟨x, -, rfl⟩
  · exact ⟨rfl, Nat.zero_le _⟩
  · exact ⟨rfl, by simp only [textCell]; omega⟩
  · exact ⟨rfl, Nat.add_le_add_left (Nat.le_of_lt bound) _⟩
  · exact ⟨rfl, Nat.le_refl _⟩

/-- The cells of a run are found in its own column. -/
theorem cellsAt_layout {i row : Nat} {run : RunSummary} (there : runs[i]? = some run) :
    cellsAt (labelColumn benchmarks ++
        (runs.mapIdx fun i run => runColumn benchmarks (i + 1) run).flatten) row (i + 1) =
      cellsAt (runColumn benchmarks (i + 1) run) row (i + 1) := by
  have label : cellsAt (labelColumn benchmarks) row (i + 1) = [] := by
    rw [cellsAt, List.filter_eq_nil_iff]
    intro cell member
    simp [(column_of_mem_labelColumn member).1]
  have others : ∀ k other, k ≠ i →
      (runColumn benchmarks (k + 1) other).filter
        (fun cell => cell.row == row && cell.column == i + 1) = [] := by
    intro k other ne
    rw [List.filter_eq_nil_iff]
    intro cell member
    simp [(column_of_mem_runColumn member).1, ne]
  rw [cellsAt, List.filter_append]
  rw [cellsAt] at label
  rw [label, List.nil_append, filter_flatten_mapIdx_of_hit _ _ there others]
  rfl

/-- The cell of a benchmark in the column of a run. -/
theorem cellsAt_runColumn_benchmark {column j : Nat} {run : RunSummary} {benchmark : String}
    (there : benchmarks[j]? = some benchmark) :
    cellsAt (runColumn benchmarks column run) (firstBenchmarkRow + j) column =
      [numberCell (firstBenchmarkRow + j) column (cellAverage run benchmark)] := by
  have inside : j < benchmarks.length := (List.getElem?_eq_some_iff.mp there).1
  have entry := filter_mapIdx_of_hit
    (fun j b => numberCell (firstBenchmarkRow + j) column (cellAverage run b))
    (fun cell => cell.row == firstBenchmarkRow + j && cell.column == column) there
    (by simp [numberCell]) fun k other ne => by simp [numberCell, ne]
  have average : ((run.average.toList.map (numberCell (averageRow benchmarks) column)).filter
      fun cell => cell.row == firstBenchmarkRow + j && cell.column == column) = [] := by
    rw [List.filter_eq_nil_iff]
    intro cell member
    obtain ⟨x, -, rfl⟩ := List.mem_map.mp member
    simp only [numberCell, averageRow, Bool.and_eq_true, beq_iff_eq]
    omega
  rw [cellsAt, runColumn, List.filter_append, List.filter_cons_of_neg, List.filter_cons_of_neg,
    entry, average, List.append_nil]
  · simp only [textCell, firstBenchmarkRow, Bool.and_eq_true, beq_iff_eq]
    omega
  · simp only [textCell, firstBenchmarkRow, Bool.and_eq_true, beq_iff_eq]
    omega

/-- The cell of the average in the column of a run. -/
theorem cellsAt_runColumn_average {column : Nat} {run : RunSummary} {x : Float}
    (averaged : run.average = some x) :
    cellsAt (runColumn benchmarks column run) (averageRow benchmarks) column =
      [numberCell (averageRow benchmarks) column x] := by
  have entries : ((benchmarks.mapIdx fun j b =>
      numberCell (firstBenchmarkRow + j) column (cellAverage run b)).filter
        fun cell => cell.row == averageRow benchmarks && cell.column == column) = [] := by
    rw [List.filter_eq_nil_iff]
    intro cell member
    obtain ⟨j, bound, rfl⟩ := List.mem_mapIdx.mp member
    simp only [numberCell, averageRow, Bool.and_eq_true, beq_iff_eq]
    omega
  rw [cellsAt, runColumn, List.filter_append, List.filter_cons_of_neg, List.filter_cons_of_neg,
    entries, averaged, List.nil_append]
  · simp [numberCell]
  · simp only [textCell, averageRow, firstBenchmarkRow, Bool.and_eq_true, beq_iff_eq]
    omega
  · simp only [textCell, averageRow, firstBenchmarkRow, Bool.and_eq_true, beq_iff_eq]
    omega

/-- Runs that fit the sheet are laid out unless one of them has no average. -/
theorem layout_eq_ok_iff (fits : runs.length < columnLimit) :
    layout runs benchmarks = .ok cells ↔
      (∀ run ∈ runs, run.average ≠ none) ∧
        cells = labelColumn benchmarks ++
          (runs.mapIdx fun i run => runColumn benchmarks (i + 1) run).flatten := by
  rw [layout, if_neg (Nat.not_le.mpr fits)]
  cases lacking : runs.find? (·.average.isNone) with
  | none =>
      rw [List.find?_eq_none] at lacking
      simp only [Except.ok.injEq, eq_comm (b := cells)]
      refine (and_iff_right ?_).symm
      intro run member
      simpa using lacking run member
  | some run =>
      have none : run.average = none := by simpa using List.find?_some lacking
      simp only [reduceCtorEq, false_iff, not_and]
      intro all
      exact absurd none (all run (List.mem_of_find?_eq_some lacking))

/-- Otherwise the first run without an average is named. -/
theorem layout_eq_error_iff (fits : runs.length < columnLimit) {error : LayoutError} :
    layout runs benchmarks = .error error ↔
      ∃ before run after, runs = before ++ run :: after ∧
        (∀ earlier ∈ before, earlier.average ≠ none) ∧ run.average = none ∧
        error = .noKernels run.name := by
  have first : ∀ run, runs.find? (·.average.isNone) = some run ↔
      ∃ before after, runs = before ++ run :: after ∧
        (∀ earlier ∈ before, earlier.average ≠ none) ∧ run.average = none := by
    intro run
    rw [List.find?_eq_some_iff_append]
    simp only [Option.isNone_iff_eq_none, Bool.not_eq_true', Option.isNone_eq_false_iff,
      Option.isSome_iff_ne_none]
    constructor
    · rintro ⟨lacks, before, after, split, earlier⟩
      exact ⟨before, after, split, earlier, lacks⟩
    · rintro ⟨before, after, split, earlier, lacks⟩
      exact ⟨lacks, before, after, split, earlier⟩
  rw [layout, if_neg (Nat.not_le.mpr fits)]
  cases lacking : runs.find? (·.average.isNone) with
  | none =>
      simp only [reduceCtorEq, false_iff]
      rintro ⟨before, run, after, split, earlier, lacks, -⟩
      rw [(first run).mpr ⟨before, after, split, earlier, lacks⟩] at lacking
      cases lacking
  | some found =>
      simp only [Except.error.injEq, eq_comm (b := error)]
      constructor
      · rintro rfl
        obtain ⟨before, after, split, earlier, lacks⟩ := (first found).mp lacking
        exact ⟨before, found, after, split, earlier, lacks, rfl⟩
      · rintro ⟨before, run, after, split, earlier, lacks, rfl⟩
        have alsoLacking := (first run).mpr ⟨before, after, split, earlier, lacks⟩
        rw [Option.some.inj (lacking.symm.trans alsoLacking)]

/-- No cell stands below the averages, or past the last run. -/
theorem bounded_of_layout (fits : runs.length < columnLimit)
    (laidOut : layout runs benchmarks = .ok cells) {cell : Cell} (member : cell ∈ cells) :
    cell.row ≤ averageRow benchmarks ∧ cell.column ≤ runs.length := by
  obtain ⟨-, rfl⟩ := (layout_eq_ok_iff fits).mp laidOut
  rcases List.mem_append.mp member with label | inRuns
  · obtain ⟨first, row⟩ := column_of_mem_labelColumn label
    exact ⟨row, first ▸ Nat.zero_le _⟩
  · obtain ⟨column, columnMember, inColumn⟩ := List.mem_flatten.mp inRuns
    obtain ⟨i, bound, rfl⟩ := List.mem_mapIdx.mp columnMember
    obtain ⟨own, row⟩ := column_of_mem_runColumn inColumn
    exact ⟨row, own ▸ bound⟩

/-- The column of a summary tells its entries by their places, and its average. -/
theorem column_of_layout {s : Store} (fits : (summarize s).length < columnLimit)
    (laidOut : layout (summarize s) s.benchmarks = .ok cells) {i : Nat} {summary : RunSummary}
    (there : (summarize s)[i]? = some summary) :
    summary.benchmarks.map (·.benchmark) = s.benchmarks ∧
    (∀ j entry, summary.benchmarks[j]? = some entry →
      cellsAt cells (2 + j) (i + 1) = [⟨2 + j, i + 1, .number entry.average, false⟩]) ∧
    ∃ x, summary.average = some x ∧
      cellsAt cells (2 + s.benchmarks.length) (i + 1) =
        [⟨2 + s.benchmarks.length, i + 1, .number x, false⟩] := by
  obtain ⟨averaged, rfl⟩ := (layout_eq_ok_iff fits).mp laidOut
  obtain ⟨x, average⟩ := Option.ne_none_iff_exists'.mp
    (averaged summary (List.mem_of_getElem? there))
  refine ⟨?_, ?_, x, average, ?_⟩
  · obtain ⟨run, -, rfl⟩ := getElem?_summarize.mp there
    simp [summarizeRun, benchmarkAverage, Function.comp_def]
  · intro j entry entryThere
    obtain ⟨run, -, rfl⟩ := getElem?_summarize.mp there
    obtain ⟨benchmark, listed, rfl⟩ : ∃ benchmark, s.benchmarks[j]? = some benchmark ∧
        benchmarkAverage run benchmark = entry := by
      rwa [summarizeRun, List.getElem?_map, Option.map_eq_some_iff] at entryThere
    rw [← cellAverage_summarizeRun (List.mem_of_getElem? listed)]
    exact (cellsAt_layout there).trans (cellsAt_runColumn_benchmark listed)
  · exact (cellsAt_layout there).trans (cellsAt_runColumn_average average)

/-- Summaries are refused for the first one that counts no kernels. -/
theorem layout_summarize_eq_error_iff {s : Store} (fits : (summarize s).length < columnLimit)
    {error : LayoutError} :
    layout (summarize s) s.benchmarks = .error error ↔
      ∃ before run after, summarize s = before ++ run :: after ∧
        (∀ earlier ∈ before, earlier.kernels ≠ 0) ∧ run.kernels = 0 ∧
        error = .noKernels run.name := by
  rw [layout_eq_error_iff fits]
  refine exists_congr fun before => exists_congr fun run => exists_congr fun after =>
    and_congr_right fun split => ?_
  have none_iff : ∀ other ∈ before ++ [run], (other.average = none ↔ other.kernels = 0) := by
    intro other member
    have summarized : other ∈ summarize s := by
      rw [split, List.append_cons]
      exact List.mem_append_left after member
    exact average_eq_none_iff_of_mem summarized
  exact and_congr
    (forall₂_congr fun earlier member =>
      not_congr (none_iff earlier (List.mem_append_left _ member)))
    (and_congr_left' (none_iff run (List.mem_append_right _ (List.mem_singleton_self run))))

/-- There are runs without an average exactly if the sheet is refused. -/
theorem exists_layout_eq_error_iff (fits : runs.length < columnLimit) :
    (∃ error, layout runs benchmarks = .error error) ↔
      0 < (runs.filter (·.average.isNone)).length := by
  have lacking : 0 < (runs.filter (·.average.isNone)).length ↔
      ∃ run ∈ runs, run.average = none := by
    simp [List.length_pos_iff_exists_mem]
  rw [lacking]
  constructor
  · rintro ⟨error, refused⟩
    obtain ⟨before, run, after, split, -, lacks, -⟩ := (layout_eq_error_iff fits).mp refused
    exact ⟨run, split ▸ List.mem_append_right _ List.mem_cons_self, lacks⟩
  · rintro ⟨run, member, lacks⟩
    cases outcome : layout runs benchmarks with
    | error error => exact ⟨error, rfl⟩
    | ok cells => exact absurd lacks (((layout_eq_ok_iff fits).mp outcome).1 run member)

end Sheet

/-- The lines of a run on the console: its name, its benchmarks with their averages in the order of the
summary, and an average of the run if kernels were counted. -/
theorem runLines_summarizeRun (run : Run) (benchmarks : List String) :
    let summary := summarizeRun run benchmarks
    runLines summary =
      summary.name ++ "\n" ++
        String.join (summary.benchmarks.map fun entry =>
          "    " ++ entry.benchmark ++ " : " ++ Decimal.fixed entry.average ++ "\n") ++
        if summary.kernels = 0 then "" else
          "  Average: " ++ Decimal.fixed (summary.total.toFloat / summary.kernels.toFloat) ++
            "\n" := by
  intro summary
  rw [runLines]
  split
  · next none =>
      rw [summarizeRun_average_eq_none_iff.mpr none]
      rfl
  · next counted =>
      rw [summarizeRun_average_eq_some counted]
      rfl

/-- The three reporters agree on every store whose runs fit a sheet, whatever names its benchmark
list repeats and whatever buckets its runs hold. The sheet is laid out exactly if every run has
kernels, and then the number at the row of a benchmark in the column of a run is the average of the
entry at that place, and the last one is that of the run; otherwise the first run without kernels is
named. The console prints a line for each entry in the same order, and an average exactly for the runs
with kernels. The report has the same runs, and counts those without an average, so that it counts some
exactly if the sheet is refused. -/
theorem reports_agree (s : Store) (fewRuns : s.runs.length < 16384)
    (fewBenchmarks : s.benchmarks.length < 2 ^ 32 - 2) :
    let runs := summarize s
    ((∃ cells, Sheet.layout runs s.benchmarks = .ok cells) ↔ ∀ run ∈ runs, run.kernels ≠ 0) ∧
    (∀ cells, Sheet.layout runs s.benchmarks = .ok cells →
      (∀ cell ∈ cells, cell.row < 2 ^ 32 ∧ cell.column < 16384) ∧
      ∀ i run, runs[i]? = some run →
        run.benchmarks.map (·.benchmark) = s.benchmarks ∧
        (∀ j entry, run.benchmarks[j]? = some entry →
          Sheet.cellsAt cells (2 + j) (i + 1) = [⟨2 + j, i + 1, .number entry.average, false⟩]) ∧
        ∃ x, run.average = some x ∧
          Sheet.cellsAt cells (2 + s.benchmarks.length) (i + 1) =
            [⟨2 + s.benchmarks.length, i + 1, .number x, false⟩]) ∧
    (∀ error, Sheet.layout runs s.benchmarks = .error error ↔
      ∃ before run after, runs = before ++ run :: after ∧
        (∀ earlier ∈ before, earlier.kernels ≠ 0) ∧ run.kernels = 0 ∧
        error = .noKernels run.name) ∧
    consoleReport runs = String.join (runs.map fun run =>
      run.name ++ "\n" ++
        String.join (run.benchmarks.map fun entry =>
          "    " ++ entry.benchmark ++ " : " ++ Decimal.fixed entry.average ++ "\n") ++
        if run.kernels = 0 then "" else
          "  Average: " ++ Decimal.fixed (run.total.toFloat / run.kernels.toFloat) ++ "\n") ∧
    ∀ missing folders input now,
      let report := Report.ofCollection ⟨s, missing, folders⟩ input now
      report.runs = runs ∧
      report.totals.emptyRuns = (runs.filter (·.average.isNone)).length ∧
      (0 < report.totals.emptyRuns ↔
        ∃ error, Sheet.layout runs s.benchmarks = .error error) := by
  intro runs
  have fits : runs.length < Sheet.columnLimit := by
    rw [show runs.length = s.runs.length from List.length_map _]
    exact fewRuns
  have none_iff : ∀ run ∈ runs, (run.average = none ↔ run.kernels = 0) :=
    fun run member => average_eq_none_iff_of_mem member
  have laidOut : (∃ cells, Sheet.layout runs s.benchmarks = .ok cells) ↔
      ∀ run ∈ runs, run.kernels ≠ 0 := by
    simp only [Sheet.layout_eq_ok_iff fits, exists_and_left, exists_eq, and_true]
    exact forall₂_congr fun run member => not_congr (none_iff run member)
  have empty : (runs.filter (·.kernels == 0)).length =
      (runs.filter (·.average.isNone)).length := by
    congr 1
    apply List.filter_congr
    intro run member
    rw [Bool.eq_iff_iff, beq_iff_eq, Option.isNone_iff_eq_none, none_iff run member]
  refine ⟨laidOut, ?_, ?_, ?_, ?_⟩
  · intro cells ran
    refine ⟨?_, fun i run => Sheet.column_of_layout fits ran⟩
    intro cell member
    obtain ⟨row, column⟩ := Sheet.bounded_of_layout fits ran member
    rw [Sheet.averageRow, Sheet.firstBenchmarkRow] at row
    exact ⟨by omega, Nat.lt_of_le_of_lt column fits⟩
  · exact fun error => Sheet.layout_summarize_eq_error_iff fits
  · rw [consoleReport]
    congr 1
    apply List.map_congr_left
    intro summary member
    obtain ⟨run, -, rfl⟩ := mem_summarize.mp member
    exact runLines_summarizeRun run s.benchmarks
  · intro missing folders input now report
    have counted : report.totals.emptyRuns = (runs.filter (·.average.isNone)).length := empty
    exact ⟨rfl, counted, counted ▸ (Sheet.exists_layout_eq_error_iff fits).symm⟩

/-- A benchmark list that names one benchmark twice, and runs with other buckets than the list has:
both rows and both lines of the name show the same average, and a run without buckets is refused. -/
theorem reports_agree_repeated :
    let benchmarks := ["vgg16", "vgg16", "vgg19"]
    let counted : Run := ⟨"a", [⟨"other", .ofSums 7 1⟩, ⟨"vgg16", .ofSums 50 2⟩]⟩
    (∃ cells, Sheet.layout (summarize ⟨benchmarks, [counted]⟩) benchmarks = .ok cells ∧
      Sheet.cellsAt cells 3 1 = [⟨3, 1, .number 25.0, false⟩] ∧
      Sheet.cellsAt cells 5 1 = [⟨5, 1, .number 25.0, false⟩]) ∧
    consoleReport (summarize ⟨benchmarks, [counted]⟩) =
      "a\n    vgg16 : 25.00\n    vgg16 : 25.00\n    vgg19 : 0.00\n  Average: 25.00\n" ∧
    Sheet.layout (summarize ⟨benchmarks, [counted, ⟨"b", []⟩]⟩) benchmarks =
      .error (.noKernels "b") := by
  intro benchmarks counted
  obtain ⟨laidOut, tells, -, lines, -⟩ :=
    reports_agree ⟨benchmarks, [counted]⟩ (by decide) (by decide)
  obtain ⟨-, -, refused, -⟩ :=
    reports_agree ⟨benchmarks, [counted, ⟨"b", []⟩]⟩ (by decide) (by decide)
  obtain ⟨cells, ran⟩ := laidOut.mpr (by decide)
  obtain ⟨-, entries, x, average, last⟩ := (tells cells ran).2 0 _ rfl
  have averaged : x = 25.0 := Option.some.inj (average.symm.trans (by decide +kernel))
  have entered : (benchmarkAverage counted "vgg16").average = 25.0 := by decide +kernel
  refine ⟨⟨cells, ran, ?_, averaged ▸ last⟩, ?_, ?_⟩
  · have second := entries 1 _ rfl
    rwa [entered] at second
  · rw [lines]
    decide +kernel
  · exact (refused _).mpr ⟨[summarizeRun counted benchmarks], summarizeRun ⟨"b", []⟩ benchmarks, [],
      rfl, by decide, by decide, rfl⟩

end Occupancy
