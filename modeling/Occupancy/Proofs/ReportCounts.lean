/-
Module: Occupancy.Proofs.ReportCounts
Purpose: The counts of a report are those of what it lists and of the scan behind it.
Main exports: min_sum_map_min, RunSummary.exactKernels, Report.Consistent, Report.OfScan,
  Report.consistent_of_collectPlan, report_counts_scan
-/
import Occupancy.Proofs.PlanText
import Occupancy.Proofs.SummaryEntries

namespace Occupancy

/-!
The counts of a report are made in three places. The collection counts folders and notes missing
logs, each summary cuts the sum of its own entries off at the greatest word, and the report cuts the
sum of these sums off once more. Cutting twice is cutting once: a part that has been cut off is as
great as the whole may become, so the exact sum of all entries alone decides (`min_sum_map_min`).
A cut never turns a count into zero, so that a report without kernels is one without a run that has
any.
-/

/-- A bound on the parts of a sum is not seen behind the same bound on the sum. -/
theorem min_sum_map_min {α : Type} (bound : Nat) (size : α → Nat) (items : List α) :
    min bound (items.map fun item => min bound (size item)).sum =
      min bound (items.map size).sum := by
  induction items with
  | nil => rfl
  | cons item rest inductionHypothesis =>
      simp only [List.map_cons, List.sum_cons]
      omega

/-- The kernels of all entries of a run, in exact numbers. -/
def RunSummary.exactKernels (summary : RunSummary) : Nat :=
  (summary.benchmarks.map fun entry => entry.kernels.toNat).sum

/-- No entry of the run has kernels. -/
def RunSummary.IsEmpty (summary : RunSummary) : Prop :=
  ∀ entry ∈ summary.benchmarks, entry.kernels = 0

instance : DecidablePred RunSummary.IsEmpty := fun summary =>
  inferInstanceAs (Decidable (∀ entry ∈ summary.benchmarks, entry.kernels = 0))

namespace Report

/-- The counts of a report are those of what it lists. -/
structure Consistent (report : Report) : Prop where
  runs : report.totals.runs = report.runs.length
  missingLogs : report.totals.missingLogs = report.missing.length
  missingLogs_le :
    report.totals.missingLogs ≤ report.totals.folders * report.about.benchmarks.length
  kernels : report.totals.kernels.toNat =
    min (2 ^ 64 - 1) (report.runs.map RunSummary.exactKernels).sum
  kernels_eq_zero_iff : report.totals.kernels = 0 ↔ report.totals.emptyRuns = report.totals.runs
  emptyRuns : report.totals.emptyRuns = (report.runs.filter fun run => run.IsEmpty).length

/-- An entry of a report is the note of a missing log. -/
structure Notes (entry : MissingEntry) (log : MissingLog) : Prop where
  runName : entry.runName = log.runName
  runNumber : entry.runNumber = log.runNumber
  benchmark : entry.benchmark = log.benchmark
  path : entry.path = Text.display log.path

/-- A report tells of the scan of a plan: its runs are the distinct run names of the folders, and its
missing logs are those of the collection, one by one. -/
structure OfScan (report : Report) (c : Collector) (plan : Plan) (collection : Collection) :
    Prop where
  runs : report.totals.runs = (plan.folders.map (·.runName)).toFinset.card
  folders : report.totals.folders = plan.folders.length
  benchmarks : report.about.benchmarks = c.benchmarks
  missing : List.Forall₂ Notes report.missing collection.missing

theorem notes_missingEntry (log : MissingLog) : Notes (missingEntry log) log := ⟨rfl, rfl, rfl, rfl⟩

section Counts

variable {collection : Collection} {shown : Bytes} {now : Timestamp}

/-- The kernels of a report are those of all entries of all runs, cut off once. -/
theorem kernels_ofCollection :
    (ofCollection collection shown now).totals.kernels.toNat =
      min (2 ^ 64 - 1) ((summarize collection.store).map RunSummary.exactKernels).sum := by
  have parts : (summarize collection.store).map (fun run => run.kernels.toNat) =
      (summarize collection.store).map fun run => min (2 ^ 64 - 1) run.exactKernels := by
    apply List.map_congr_left
    intro summary member
    obtain ⟨run, -, rfl⟩ := mem_summarize.mp member
    exact summarizes_summarizeRun.kernels
  calc (ofCollection collection shown now).totals.kernels.toNat
      = min (0 + ((summarize collection.store).map fun run => run.kernels.toNat).sum) maxWord :=
        toNat_foldl_saturatingAdd RunSummary.kernels _ 0
    _ = min (2 ^ 64 - 1) ((summarize collection.store).map RunSummary.exactKernels).sum := by
        rw [Nat.zero_add, Nat.min_comm, parts]
        exact min_sum_map_min _ _ _

/-- A run counts no kernels exactly if none of its entries does. -/
theorem kernels_eq_zero_iff_isEmpty {summary : RunSummary}
    (member : summary ∈ summarize collection.store) :
    (summary.kernels == 0) = decide summary.IsEmpty := by
  obtain ⟨run, -, rfl⟩ := mem_summarize.mp member
  rw [Bool.eq_iff_iff, beq_iff_eq, decide_eq_true_iff]
  exact sum_entries_eq_zero_iff (·.kernels) _

theorem emptyRuns_ofCollection :
    (ofCollection collection shown now).totals.emptyRuns =
      ((summarize collection.store).filter fun run => run.IsEmpty).length := by
  have same : (summarize collection.store).filter (·.kernels == 0) =
      (summarize collection.store).filter fun run => run.IsEmpty :=
    List.filter_congr fun _ member => kernels_eq_zero_iff_isEmpty member
  rw [← same]
  rfl

/-- A report counts no kernels exactly if every run is counted as empty. -/
theorem kernels_ofCollection_eq_zero_iff :
    (ofCollection collection shown now).totals.kernels = 0 ↔
      (ofCollection collection shown now).totals.emptyRuns =
        (ofCollection collection shown now).totals.runs := by
  have none : (ofCollection collection shown now).totals.kernels = 0 ↔
      ∀ summary ∈ summarize collection.store, summary.exactKernels = 0 := by
    rw [← UInt64.toNat_inj, kernels_ofCollection, UInt64.toNat_zero, Nat.min_eq_zero_iff,
      or_iff_right (by decide), List.sum_eq_zero_iff_forall_eq_nat]
    simp
  have empty (summary : RunSummary) : summary.exactKernels = 0 ↔ summary.IsEmpty := by
    rw [RunSummary.exactKernels, List.sum_eq_zero_iff_forall_eq_nat, RunSummary.IsEmpty]
    simp [← UInt64.toNat_inj]
  rw [none, emptyRuns_ofCollection]
  simp only [empty]
  exact (List.length_filter_eq_length_iff.trans (by simp)).symm

end Counts

/-- The report of a collection of a plan, whatever its logs are. -/
theorem consistent_of_collectPlan {c : Collector} {logs : Bytes → LogState} {plan : Plan}
    {collection : Collection} (collected : c.collectPlan logs plan = .ok collection)
    (shown : Bytes) (now : Timestamp) :
    (ofCollection collection shown now).Consistent ∧
      (ofCollection collection shown now).OfScan c plan collection := by
  obtain ⟨-, missing, folders, -⟩ := Collector.collectPlan_eq_ok_iff.mp collected
  obtain ⟨names, -⟩ := c.names_of_collectPlan collected
  have benchmarks : collection.store.benchmarks = c.benchmarks := by
    rw [(Collector.reference_of_folders collected).1]
    rfl
  refine ⟨⟨rfl, (List.length_map _).symm, ?_, kernels_ofCollection,
    kernels_ofCollection_eq_zero_iff, emptyRuns_ofCollection⟩, ⟨?_, folders, benchmarks, ?_⟩⟩
  · show collection.missing.length ≤ collection.folders * collection.store.benchmarks.length
    rw [missing, List.length_map, folders, benchmarks, ← plan.length_visits]
    exact List.length_filter_le _ _
  · show (summarize collection.store).length = _
    have sameNames : plan.runNames.toFinset = (plan.folders.map (·.runName)).toFinset := by
      ext name
      simp [Plan.runNames_eq_eraseDups]
    rw [summarize, List.length_map, ← sameNames, List.toFinset_card_of_nodup plan.nodup_runNames,
      ← names, Store.names, List.length_map]
  · show List.Forall₂ Notes (collection.missing.map missingEntry) collection.missing
    rw [List.forall₂_map_left_iff, List.forall₂_same]
    exact fun log _ => notes_missingEntry log

end Report

/-- The report of a collection that succeeds counts what it lists and what was scanned. There are as
many runs as the planned folders have names, and the report lists each of them; it lists the missing
logs of the collection, one by one and in their order, and they are no more than one for each folder
and each entry of the benchmark list; its kernels are those of all entries of all runs, cut off once
at the greatest word; and the empty runs are those without kernels in any entry, which are all runs
exactly if no kernels are counted. -/
theorem report_counts_scan {c : Collector} {tree : FileTree} {here : Location} {input : Bytes}
    {exclude : List String} {collection : Collection}
    (collected : c.collect tree here input exclude = .ok collection) (shown : Bytes)
    (now : Timestamp) :
    let report := Report.ofCollection collection shown now
    ∃ plan, Plan.ofTree tree here input exclude = .ok plan ∧
      report.Consistent ∧ report.OfScan c plan collection := by
  intro report
  cases planned : Plan.ofTree tree here input exclude with
  | error fault =>
      rw [Collector.collect_eq_error_of_ofTree planned] at collected
      cases collected
  | ok plan =>
      rw [Collector.collect_eq_of_ofTree planned] at collected
      exact ⟨plan, rfl, Report.consistent_of_collectPlan collected shown now⟩

/-- A tree with one folder that has a log, and one folder of another run that is empty. -/
def loggedAndEmpty : FileTree :=
  ⟨[([Path.ofString "in"], .directory),
    ([Path.ofString "in", Path.ofString "a-1"], .directory),
    ([Path.ofString "in", Path.ofString "a-1", Path.ofString "vgg16"], .directory),
    ([Path.ofString "in", Path.ofString "a-1", Path.ofString "vgg16", Path.ofString "vgg16.log"],
      .file (.bytes (Path.ofString "Final occupancy for function gemm:50\n"))),
    ([Path.ofString "in", Path.ofString "b-1"], .directory)]⟩

set_option maxRecDepth 10000 in
/-- One of two runs is empty, and three of four logs are missing. -/
theorem report_counts_scan_oneEmpty :
    let c : Collector := ⟨["vgg16", "vgg19"], standardIgnoredKernels, .standard⟩
    ∃ collection plan, c.collect loggedAndEmpty [] (Path.ofString "in") [] = .ok collection ∧
      Plan.ofTree loggedAndEmpty [] (Path.ofString "in") [] = .ok plan ∧
      let report := Report.ofCollection collection (Path.ofString "in") ⟨0, 0⟩
      report.totals = ⟨2, 2, 3, 1, 1⟩ ∧ report.Consistent ∧ report.OfScan c plan collection := by
  intro c
  have planned : Plan.ofTree loggedAndEmpty [] (Path.ofString "in") [] =
      .ok ⟨[.ofFolder (Path.ofString "in/a-1") "a-1", .ofFolder (Path.ofString "in/b-1") "b-1"],
        []⟩ := by
    cbv
  have collected := Collector.collect_eq_of_ofTree (c := c) planned
  obtain ⟨plan, alsoPlanned, told⟩ := report_counts_scan (collected.trans rfl) (Path.ofString "in")
    ⟨0, 0⟩
  refine ⟨_, plan, collected.trans rfl, alsoPlanned, ?_, told⟩
  decide +kernel

end Occupancy
