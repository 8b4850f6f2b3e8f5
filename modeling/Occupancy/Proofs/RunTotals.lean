/-
Module: Occupancy.Proofs.RunTotals
Purpose: What the totals of a run and of its summary have to do with the samples taken.
Main exports: Bucket.Sound, Collector.runSamples, ExactTotals, sum_slots, sum_entries,
  exactTotals_of_collectPlan
-/
import Mathlib
import Occupancy.Proofs.SampleMultiset
import Occupancy.Summary

namespace Occupancy

/-!
A benchmark that is listed twice is scanned twice into the one bucket that look-ups find. The totals
of the run go over the buckets and see that bucket once, and those of its summary go over the list
and see it twice. With `n` entries of a benchmark the run has its samples `n` times, and the summary
`n * n` times, or less where a merge did not fit.

So the totals are the exact ones when no benchmark with samples is listed twice. That this is also
needed takes no assumption that the multiplied sums fit: if run and summary agree, a bucket that the
summary sees twice must be empty, and it is only empty when no log had a sample for it.
-/

namespace Bucket

/-- A bucket without kernels has no total. -/
def Sound (b : Bucket) : Prop := b.kernels.toNat = 0 → b.total.toNat = 0

theorem sound_empty : empty.Sound := fun _ => rfl

/-- If there are no kernels behind an addition, there were none before and it brought none: a bucket
without kernels has room for everything. -/
theorem Sound.kernels_eq_zero {b : Bucket} (sound : b.Sound) {total kernels : UInt64}
    (zero : ((b.add? total kernels).getD b).kernels.toNat = 0) :
    b.kernels.toNat = 0 ∧ kernels.toNat = 0 := by
  rw [add?_eq_ite] at zero
  by_cases takes : b.Takes total kernels
  · rw [if_pos takes, Option.getD_some, ofSums, UInt64.toNat_add, Nat.mod_eq_of_lt takes.2] at zero
    omega
  · rw [if_neg takes, Option.getD_none] at zero
    refine absurd ⟨?_, ?_⟩ takes
    · rw [sound zero, Nat.zero_add]
      exact total.toNat_lt
    · rw [zero, Nat.zero_add]
      exact kernels.toNat_lt

theorem Sound.add {b : Bucket} (sound : b.Sound) {total kernels : UInt64}
    (soundItem : kernels.toNat = 0 → total.toNat = 0) :
    ((b.add? total kernels).getD b).Sound := by
  intro zero
  obtain ⟨noKernels, noMore⟩ := sound.kernels_eq_zero zero
  rw [add?_eq_ite]
  split
  · simp [ofSums, UInt64.toNat_add, sound noKernels, soundItem noMore]
  · exact sound noKernels

end Bucket

namespace Collector

/-- The bucket of a log is sound, and has no kernels only if the log has no samples. -/
theorem sound_scan (c : Collector) (log : Bytes) :
    (c.scan log).Sound ∧ ((c.scan log).kernels.toNat = 0 → c.values log = []) := by
  rw [scan_eq_foldl_record]
  induction c.values log using List.reverseRecOn with
  | nil => exact ⟨Bucket.sound_empty, fun _ => rfl⟩
  | append_singleton values value inductionHypothesis =>
      rw [List.foldl_concat]
      refine ⟨inductionHypothesis.1.add (by simp), fun zero => ?_⟩
      have noKernels := (inductionHypothesis.1.kernels_eq_zero zero).2
      simp at noKernels

/-- The same of a pooled bucket and its logs. -/
theorem sound_pooled (c : Collector) (logs : List Bytes) :
    (c.pooled logs).Sound ∧
      ((c.pooled logs).kernels.toNat = 0 → ∀ log ∈ logs, c.values log = []) := by
  induction logs using List.reverseRecOn with
  | nil => exact ⟨Bucket.sound_empty, fun _ log member => by simp at member⟩
  | append_singleton logs log inductionHypothesis =>
      rw [pooled_concat]
      refine ⟨inductionHypothesis.1.add (c.sound_scan log).1, fun zero other member => ?_⟩
      have noKernels := inductionHypothesis.1.kernels_eq_zero zero
      rcases List.mem_append.mp member with before | last
      · exact inductionHypothesis.2 noKernels.1 other before
      · rw [List.mem_singleton.mp last]
        exact (c.sound_scan log).2 noKernels.2

/-- A listed benchmark whose bucket has no kernels has no samples. -/
theorem samples_eq_zero_of_pooled {c : Collector} {trials : List Trial} {run benchmark : String}
    (listed : benchmark ∈ c.benchmarks)
    (zero : (c.pooled (c.pool trials run benchmark)).kernels.toNat = 0) :
    c.samples trials run benchmark = 0 := by
  have counted := c.sum_kernels_pool trials run benchmark
  have noValues : ∀ log ∈ c.pool trials run benchmark, (c.sizes log).2 = 0 := by
    intro log member
    rw [sizes, (c.sound_pooled _).2 zero log member]
    rfl
  have entries : 0 < c.benchmarks.count benchmark := List.count_pos_iff.mpr listed
  rw [List.map_congr_left noValues, List.map_const', List.sum_replicate, nsmul_zero] at counted
  exact Multiset.card_eq_zero.mp ((Nat.mul_eq_zero.mp counted.symm).resolve_left (by omega))

/-- The samples that count for a run: those of its distinct benchmarks, together. -/
def runSamples (c : Collector) (trials : List Trial) (run : String) : Multiset UInt32 :=
  ∑ benchmark ∈ c.benchmarks.toFinset, c.samples trials run benchmark

end Collector

/-- A sum over the buckets of a run sees the bucket of each name once. -/
theorem sum_slots (measure : Bucket → Nat) (blank : measure .empty = 0) (bucket : String → Bucket)
    (benchmarks : List String) :
    ((slots bucket benchmarks).map fun slot => measure slot.bucket).sum =
      ∑ benchmark ∈ benchmarks.toFinset, measure (bucket benchmark) := by
  induction benchmarks generalizing bucket with
  | nil => rfl
  | cons head rest inductionHypothesis =>
      rw [slots_cons, List.map_cons, List.sum_cons, inductionHypothesis, List.toFinset_cons]
      have others : ∑ benchmark ∈ rest.toFinset,
          measure (Function.update bucket head .empty benchmark) =
            ∑ benchmark ∈ rest.toFinset.erase head, measure (bucket benchmark) := by
        rw [← Finset.sum_erase rest.toFinset (a := head) (by rw [Function.update_self, blank])]
        refine Finset.sum_congr rfl fun benchmark member => ?_
        rw [Function.update_of_ne (Finset.ne_of_mem_erase member)]
      rw [others, ← Finset.erase_insert_eq_erase,
        Finset.add_sum_erase _ (fun benchmark => measure (bucket benchmark))
          (Finset.mem_insert_self head _)]

section Tables

variable (benchmarks : List String) (name : String) (bucket : String → Bucket)

/-- The totals of a run see the bucket of each benchmark once. -/
theorem toNat_totals_tabulate :
    (Run.tabulate benchmarks name bucket).total.toNat =
        min (∑ benchmark ∈ benchmarks.toFinset, (bucket benchmark).total.toNat) maxWord ∧
      (Run.tabulate benchmarks name bucket).kernels.toNat =
        min (∑ benchmark ∈ benchmarks.toFinset, (bucket benchmark).kernels.toNat) maxWord := by
  refine ⟨?_, ?_⟩
  · rw [Run.total, toNat_foldl_saturatingAdd, UInt64.toNat_zero, Nat.zero_add]
    exact congrArg (min · maxWord) (sum_slots (·.total.toNat) rfl bucket benchmarks)
  · rw [Run.kernels, toNat_foldl_saturatingAdd, UInt64.toNat_zero, Nat.zero_add]
    exact congrArg (min · maxWord) (sum_slots (·.kernels.toNat) rfl bucket benchmarks)

/-- A sum over the entries of a summary sees the bucket of each benchmark once for every entry of
its name in the list. -/
theorem sum_entries {word : BenchmarkAverage → UInt64} (measure : Bucket → Nat)
    (reads : ∀ benchmark ∈ benchmarks,
      (word (benchmarkAverage (.tabulate benchmarks name bucket) benchmark)).toNat =
        measure (bucket benchmark)) :
    ((benchmarks.map (benchmarkAverage (.tabulate benchmarks name bucket))).map fun entry =>
        (word entry).toNat).sum =
      ∑ benchmark ∈ benchmarks.toFinset,
        benchmarks.count benchmark * measure (bucket benchmark) := by
  have measured : ((benchmarks.map (benchmarkAverage (.tabulate benchmarks name bucket))).map
      fun entry => (word entry).toNat) =
        benchmarks.map fun benchmark => measure (bucket benchmark) := by
    rw [List.map_map]
    exact List.map_congr_left reads
  rw [measured, Finset.sum_list_map_count]
  rfl

/-- The totals of a summary see the bucket of each benchmark once for every entry in the list. -/
theorem toNat_totals_summarizeRun :
    (summarizeRun (.tabulate benchmarks name bucket) benchmarks).total.toNat =
        min (∑ benchmark ∈ benchmarks.toFinset,
          benchmarks.count benchmark * (bucket benchmark).total.toNat) maxWord ∧
      (summarizeRun (.tabulate benchmarks name bucket) benchmarks).kernels.toNat =
        min (∑ benchmark ∈ benchmarks.toFinset,
          benchmarks.count benchmark * (bucket benchmark).kernels.toNat) maxWord := by
  refine ⟨?_, ?_⟩
  · rw [summarizeRun, toNat_foldl_saturatingAdd, UInt64.toNat_zero, Nat.zero_add,
      sum_entries benchmarks name bucket (·.total.toNat)]
    intro benchmark listed
    simp [benchmarkAverage, Run.get?_tabulate listed]
  · rw [summarizeRun, toNat_foldl_saturatingAdd, UInt64.toNat_zero, Nat.zero_add,
      sum_entries benchmarks name bucket (·.kernels.toNat)]
    intro benchmark listed
    simp [benchmarkAverage, Run.get?_tabulate listed]

end Tables

/-- The summary that stands beside a run is its own. -/
theorem mem_zip_summarize {store : Store} {run : Run} {summary : RunSummary}
    (paired : (run, summary) ∈ store.runs.zip (summarize store)) :
    run ∈ store.runs ∧ summary = summarizeRun run store.benchmarks := by
  have pairs : store.runs.zip (summarize store) =
      store.runs.map fun run => (run, summarizeRun run store.benchmarks) := by
    simpa [summarize] using
      List.zip_map' (f := id) (g := (summarizeRun · store.benchmarks)) (l := store.runs)
  rw [pairs, List.mem_map] at paired
  obtain ⟨found, member, same⟩ := paired
  cases same
  exact ⟨member, rfl⟩

/-- The totals of a run and of its summary are the exact sum and number of some samples. -/
structure ExactTotals (run : Run) (summary : RunSummary) (samples : Multiset UInt32) : Prop where
  runTotal : run.total.toNat = exactTotal samples
  runKernels : run.kernels.toNat = samples.card
  summaryTotal : summary.total.toNat = exactTotal samples
  summaryKernels : summary.kernels.toNat = samples.card

/-- No benchmark that is listed more than once has samples in the run. -/
def Collector.NoneTwice (c : Collector) (trials : List Trial) (run : String) : Prop :=
  ∀ benchmark, 1 < c.benchmarks.count benchmark → c.samples trials run benchmark = 0

section Reference

variable {c : Collector} {trials : List Trial} {name : String}

/-- The run that a collection has for a name. -/
def Collector.referenceRun (c : Collector) (trials : List Trial) (name : String) : Run :=
  .tabulate c.benchmarks name fun benchmark => c.pooled (c.pool trials name benchmark)

/-- What is summed over the list is no less than the part of a listed benchmark. -/
theorem le_sum_of_listed {c : Collector} {benchmark : String} (listed : benchmark ∈ c.benchmarks)
    (measure : String → Nat) : measure benchmark ≤ ∑ name ∈ c.benchmarks.toFinset, measure name :=
  Finset.single_le_sum (fun _ _ => Nat.zero_le _) (List.mem_toFinset.mpr listed)

/-- If nothing is taken twice, counting the samples of a benchmark for each entry in the list
changes nothing. -/
theorem count_mul_of_noneTwice (single : c.NoneTwice trials name) {benchmark : String}
    (listed : benchmark ∈ c.benchmarks) :
    c.benchmarks.count benchmark * exactTotal (c.samples trials name benchmark) =
        exactTotal (c.samples trials name benchmark) ∧
      c.benchmarks.count benchmark * (c.samples trials name benchmark).card =
        (c.samples trials name benchmark).card := by
  have entries : 0 < c.benchmarks.count benchmark := List.count_pos_iff.mpr listed
  rcases Nat.lt_or_ge 1 (c.benchmarks.count benchmark) with twice | atMostOnce
  · simp [single benchmark twice]
  · have one : c.benchmarks.count benchmark = 1 := by omega
    simp [one]

/-- If nothing is taken twice, the bucket of a listed benchmark has its exact sums. -/
theorem pooled_of_noneTwice (single : c.NoneTwice trials name)
    (totalFits : exactTotal (c.runSamples trials name) < UInt64.size)
    (kernelsFit : (c.runSamples trials name).card < UInt64.size)
    {benchmark : String} (listed : benchmark ∈ c.benchmarks) :
    (c.pooled (c.pool trials name benchmark)).total.toNat =
        exactTotal (c.samples trials name benchmark) ∧
      (c.pooled (c.pool trials name benchmark)).kernels.toNat =
        (c.samples trials name benchmark).card := by
  rw [Collector.runSamples, exactTotal_sum] at totalFits
  rw [Collector.runSamples, Multiset.card_sum] at kernelsFit
  obtain ⟨totalOnce, kernelsOnce⟩ := count_mul_of_noneTwice single listed
  have total : exactTotal (c.samples trials name benchmark) < UInt64.size :=
    Nat.lt_of_le_of_lt
      (le_sum_of_listed listed fun other => exactTotal (c.samples trials name other)) totalFits
  have kernels : (c.samples trials name benchmark).card < UInt64.size :=
    Nat.lt_of_le_of_lt (le_sum_of_listed listed fun other => (c.samples trials name other).card)
      kernelsFit
  have fits : c.Fits trials name benchmark := by
    rw [Collector.Fits, totalOnce, kernelsOnce]
    exact ⟨total, kernels⟩
  rw [Collector.pooled_pool_of_fits fits, Collector.exactBucket, totalOnce, kernelsOnce]
  exact ⟨Bucket.toNat_total_ofExact _ total, Bucket.toNat_kernels_ofExact _ kernels⟩

/-- If nothing is taken twice, the totals are the exact ones. -/
theorem exactTotals_of_noneTwice (single : c.NoneTwice trials name)
    (totalFits : exactTotal (c.runSamples trials name) < UInt64.size)
    (kernelsFit : (c.runSamples trials name).card < UInt64.size) :
    ExactTotals (c.referenceRun trials name)
      (summarizeRun (c.referenceRun trials name) c.benchmarks) (c.runSamples trials name) := by
  have sums (benchmark : String) (member : benchmark ∈ c.benchmarks.toFinset) :=
    pooled_of_noneTwice single totalFits kernelsFit (List.mem_toFinset.mp member)
  have once (benchmark : String) (member : benchmark ∈ c.benchmarks.toFinset) :=
    count_mul_of_noneTwice single (List.mem_toFinset.mp member)
  have cut {exact : Nat} (fits : exact < UInt64.size) : min exact maxWord = exact :=
    Nat.min_eq_left (Nat.le_sub_one_of_lt fits)
  obtain ⟨runTotal, runKernels⟩ := toNat_totals_tabulate c.benchmarks name fun benchmark =>
    c.pooled (c.pool trials name benchmark)
  obtain ⟨summaryTotal, summaryKernels⟩ := toNat_totals_summarizeRun c.benchmarks name
    fun benchmark => c.pooled (c.pool trials name benchmark)
  rw [Finset.sum_congr rfl fun benchmark member => (sums benchmark member).1] at runTotal
  rw [Finset.sum_congr rfl fun benchmark member => (sums benchmark member).2] at runKernels
  rw [Finset.sum_congr rfl fun benchmark member => by
    rw [(sums benchmark member).1, (once benchmark member).1]] at summaryTotal
  rw [Finset.sum_congr rfl fun benchmark member => by
    rw [(sums benchmark member).2, (once benchmark member).2]] at summaryKernels
  rw [← exactTotal_sum] at runTotal summaryTotal
  rw [← Multiset.card_sum] at runKernels summaryKernels
  exact ⟨runTotal.trans (cut totalFits), runKernels.trans (cut kernelsFit),
    summaryTotal.trans (cut totalFits), summaryKernels.trans (cut kernelsFit)⟩

/-- If run and summary have the exact number of samples, and it is not one that they could have been
cut off to, then nothing is taken twice. -/
theorem noneTwice_of_exactTotals (below : (c.runSamples trials name).card < maxWord)
    (exact : ExactTotals (c.referenceRun trials name)
      (summarizeRun (c.referenceRun trials name) c.benchmarks) (c.runSamples trials name)) :
    c.NoneTwice trials name := by
  intro benchmark twice
  have listed : benchmark ∈ c.benchmarks := List.count_pos_iff.mp (by omega)
  let kernels (other : String) : Nat := (c.pooled (c.pool trials name other)).kernels.toNat
  have runKernels : min (∑ other ∈ c.benchmarks.toFinset, kernels other) maxWord =
      (c.runSamples trials name).card :=
    (toNat_totals_tabulate _ _ _).2.symm.trans exact.runKernels
  have summaryKernels :
      min (∑ other ∈ c.benchmarks.toFinset, c.benchmarks.count other * kernels other) maxWord =
        (c.runSamples trials name).card :=
    (toNat_totals_summarizeRun _ _ _).2.symm.trans exact.summaryKernels
  have weighted : ∀ other ∈ c.benchmarks.toFinset,
      kernels other ≤ c.benchmarks.count other * kernels other := fun other member =>
    Nat.le_mul_of_pos_left _ (List.count_pos_iff.mpr (List.mem_toFinset.mp member))
  have same : kernels benchmark = c.benchmarks.count benchmark * kernels benchmark :=
    (Finset.sum_eq_sum_iff_of_le weighted).mp (by omega) benchmark (List.mem_toFinset.mpr listed)
  have zero : kernels benchmark = 0 := by
    by_contra some
    have grown : 1 * kernels benchmark < c.benchmarks.count benchmark * kernels benchmark :=
      Nat.mul_lt_mul_of_pos_right twice (Nat.pos_of_ne_zero some)
    omega
  exact Collector.samples_eq_zero_of_pooled listed zero

end Reference

/-- The totals of a run and of its summary are the exact sum and number of its samples, every log
taken once, where no benchmark with samples is listed twice; and only there, unless the number of
the samples is the very one that saturated counts stop at. -/
theorem exactTotals_of_collectPlan {c : Collector} {logs : Bytes → LogState} {plan : Plan}
    {collection : Collection} (collected : c.collectPlan logs plan = .ok collection) {run : Run}
    {summary : RunSummary}
    (paired : (run, summary) ∈ collection.store.runs.zip (summarize collection.store))
    (totalFits : exactTotal (c.runSamples (plan.trials logs) run.name) < UInt64.size)
    (kernelsFit : (c.runSamples (plan.trials logs) run.name).card < UInt64.size) :
    (c.NoneTwice (plan.trials logs) run.name →
      ExactTotals run summary (c.runSamples (plan.trials logs) run.name)) ∧
    ((c.runSamples (plan.trials logs) run.name).card ≠ maxWord →
      ExactTotals run summary (c.runSamples (plan.trials logs) run.name) →
      c.NoneTwice (plan.trials logs) run.name) := by
  obtain ⟨member, rfl⟩ := mem_zip_summarize paired
  have benchmarksEq : collection.store.benchmarks = c.benchmarks := by
    rw [(Collector.reference_of_folders collected).1]
    rfl
  have runEq : run = c.referenceRun (plan.trials logs) run.name :=
    run_of_collectPlan collected member
  rw [benchmarksEq]
  refine ⟨fun single => ?_, fun notCut exact => ?_⟩
  · have totals := exactTotals_of_noneTwice single totalFits kernelsFit
    rwa [← runEq] at totals
  · rw [runEq] at exact
    exact noneTwice_of_exactTotals
      (Nat.lt_of_le_of_ne (Nat.le_sub_one_of_lt kernelsFit) notCut) exact

/-- A benchmark that is listed twice does no harm while it has no log. -/
theorem exactTotals_of_collectPlan_absent :
    let c : Collector := ⟨["vgg16", "vgg19", "vgg19"], standardIgnoredKernels, .standard⟩
    let logs : Bytes → LogState := fun path =>
      if path = RunFolder.logPath (.ofFolder [0x61] "a-1") "vgg16" then
        .present (Path.ofString "Final occupancy for function gemm:50\n")
      else .absent
    let plan : Plan := ⟨[.ofFolder [0x61] "a-1"], []⟩
    ∃ collection run summary, c.collectPlan logs plan = .ok collection ∧
      (run, summary) ∈ collection.store.runs.zip (summarize collection.store) ∧
      ExactTotals run summary (c.runSamples (plan.trials logs) run.name) := by
  intro c logs plan
  have single : c.NoneTwice (plan.trials logs) "a" := by
    intro benchmark twice
    have listed : benchmark ∈ c.benchmarks := List.count_pos_iff.mp (by omega)
    have known : benchmark = "vgg16" ∨ benchmark = "vgg19" := by simpa [c] using listed
    rcases known with rfl | rfl
    · exact absurd twice (by decide)
    · decide +kernel
  refine ⟨_, _, _, rfl, List.mem_cons_self, ?_⟩
  exact (@exactTotals_of_collectPlan c logs plan _ rfl _ _ List.mem_cons_self
    (by decide +kernel) (by decide +kernel)).1 single

/-- A benchmark that is listed twice, with one sample: the totals are neither the exact ones nor the
same. -/
theorem totals_of_listedTwice :
    let c : Collector := ⟨["vgg16", "vgg16"], standardIgnoredKernels, .standard⟩
    let logs : Bytes → LogState := fun _ =>
      .present (Path.ofString "Final occupancy for function gemm:50\n")
    let plan : Plan := ⟨[.ofFolder [0x61] "a-1"], []⟩
    ∃ collection run summary, c.collectPlan logs plan = .ok collection ∧
      (run, summary) ∈ collection.store.runs.zip (summarize collection.store) ∧
      exactTotal (c.runSamples (plan.trials logs) run.name) = 50 ∧
      (c.runSamples (plan.trials logs) run.name).card = 1 ∧
      (run.total, run.kernels) = (100, 2) ∧ (summary.total, summary.kernels) = (200, 4) ∧
      ¬ExactTotals run summary (c.runSamples (plan.trials logs) run.name) := by
  intro c logs plan
  refine ⟨_, _, _, rfl, List.mem_cons_self, ?_, ?_, ?_, ?_, ?_⟩
  · decide +kernel
  · decide +kernel
  · decide +kernel
  · decide +kernel
  · intro exact
    exact absurd exact.runTotal (by decide +kernel)

end Occupancy
