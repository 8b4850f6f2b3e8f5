/-
Module: Occupancy.Proofs.SampleMultiset
Purpose: The samples of a run and a benchmark as a multiset, and what a bucket keeps of them.
Main exports: exactTotal, Trial.samples, Collector.samples, Collector.Fits,
  Collector.exactBucket, Collector.pooled_pool_of_fits, buckets_of_collectPlan
-/
import Mathlib
import Occupancy.Proofs.CollectionReference
import Occupancy.Proofs.LogValues

namespace Occupancy

/-!
The samples that count for a run and a benchmark are those of its logs, every log taken once. A
bucket has gone through the same logs, every log as often as the list names the benchmark, first
value by value and then log by log. As long as the exact sums fit, neither loop refuses anything,
and the bucket keeps the sum and the number of the samples, multiplied.
-/

/-- The exact sum of some samples. -/
def exactTotal (samples : Multiset UInt32) : Nat := (samples.map UInt32.toNat).sum

@[simp] theorem exactTotal_zero : exactTotal 0 = 0 := rfl

@[simp] theorem exactTotal_add (first second : Multiset UInt32) :
    exactTotal (first + second) = exactTotal first + exactTotal second := by
  rw [exactTotal, Multiset.map_add, Multiset.sum_add]
  rfl

@[simp] theorem exactTotal_coe (values : List UInt32) :
    exactTotal values = (values.map UInt32.toNat).sum := rfl

/-- The exact sum as a homomorphism. -/
def exactTotalHom : Multiset UInt32 →+ Nat := ⟨⟨exactTotal, exactTotal_zero⟩, exactTotal_add⟩

theorem exactTotal_sum (names : Finset String) (samples : String → Multiset UInt32) :
    exactTotal (∑ name ∈ names, samples name) = ∑ name ∈ names, exactTotal (samples name) :=
  map_sum exactTotalHom samples names

/-- The samples that a trial has for a run and a benchmark. -/
def Trial.samples (c : Collector) (trial : Trial) (run benchmark : String) : Multiset UInt32 :=
  if trial.run = run then (trial.log benchmark).elim 0 fun log => c.values log else 0

namespace Collector

/-- The samples that count for a run and a benchmark: those of the log of the benchmark in every
trial of the run, each log taken once. -/
def samples (c : Collector) (trials : List Trial) (run benchmark : String) : Multiset UInt32 :=
  (trials.map fun trial => trial.samples c run benchmark).sum

@[simp] theorem samples_nil (c : Collector) (run benchmark : String) :
    c.samples [] run benchmark = 0 := rfl

@[simp] theorem samples_cons (c : Collector) (trial : Trial) (trials : List Trial)
    (run benchmark : String) :
    c.samples (trial :: trials) run benchmark =
      trial.samples c run benchmark + c.samples trials run benchmark := by
  rw [samples, List.map_cons, List.sum_cons]
  rfl

@[simp] theorem samples_append (c : Collector) (first second : List Trial)
    (run benchmark : String) :
    c.samples (first ++ second) run benchmark =
      c.samples first run benchmark + c.samples second run benchmark := by
  rw [samples, List.map_append, List.sum_append]
  rfl

/-- A run without trials has no samples. -/
theorem samples_eq_zero (c : Collector) {trials : List Trial} {run : String}
    (absent : run ∉ trials.map (·.run)) (benchmark : String) :
    c.samples trials run benchmark = 0 := by
  induction trials with
  | nil => rfl
  | cons trial trials inductionHypothesis =>
      rw [List.map_cons, List.mem_cons, not_or] at absent
      rw [samples_cons, inductionHypothesis absent.2, Trial.samples, if_neg (Ne.symm absent.1),
        add_zero]

/-- The sum and the number of the values of a log. -/
def sizes (c : Collector) (log : Bytes) : Nat × Nat :=
  (((c.values log).map UInt32.toNat).sum, (c.values log).length)

/-- A log whose sums fit is counted in full. -/
theorem scan_eq_ofExact {c : Collector} {log : Bytes} (totalFits : (c.sizes log).1 < UInt64.size)
    (kernelsFit : (c.sizes log).2 < UInt64.size) :
    c.scan log = .ofExact (c.sizes log).1 (c.sizes log).2 := by
  rw [scan_eq_foldl_record, Bucket.empty_eq_ofExact,
    Bucket.foldl_record_ofExact _ (by rwa [Nat.zero_add]) (by rwa [Nat.zero_add]), Nat.zero_add,
    Nat.zero_add]
  rfl

/-- Logs whose sums fit together are merged in full. -/
theorem pooled_eq_ofExact {c : Collector} {logs : List Bytes}
    (totalFits : (logs.map fun log => (c.sizes log).1).sum < UInt64.size)
    (kernelsFit : (logs.map fun log => (c.sizes log).2).sum < UInt64.size) :
    c.pooled logs =
      .ofExact (logs.map fun log => (c.sizes log).1).sum
        (logs.map fun log => (c.sizes log).2).sum := by
  have scanned : ∀ (merged : Bucket), ∀ log ∈ logs,
      merged.merge (c.scan log) = merged.merge (.ofExact (c.sizes log).1 (c.sizes log).2) := by
    intro merged log member
    have total : (c.sizes log).1 ≤ (logs.map fun log => (c.sizes log).1).sum :=
      List.le_sum_of_mem (List.mem_map_of_mem member)
    have kernels : (c.sizes log).2 ≤ (logs.map fun log => (c.sizes log).2).sum :=
      List.le_sum_of_mem (List.mem_map_of_mem member)
    rw [scan_eq_ofExact (by omega) (by omega)]
  rw [pooled_eq_foldl_merge, List.foldl_ext _ _ _ scanned, Bucket.empty_eq_ofExact,
    Bucket.foldl_merge_ofExact c.sizes logs (by simpa using totalFits) (by simpa using kernelsFit),
    Nat.zero_add, Nat.zero_add]

/-- A measure of logs that only looks at their values, summed over all that a bucket has gone
through, is the measure of the samples times the number of entries of the benchmark. -/
theorem sum_map_pool (c : Collector) (measure : Multiset UInt32 →+ Nat) (trials : List Trial)
    (run benchmark : String) :
    ((c.pool trials run benchmark).map fun log => measure (c.values log)).sum =
      c.benchmarks.count benchmark * measure (c.samples trials run benchmark) := by
  induction trials with
  | nil => simp [pool]
  | cons trial trials inductionHypothesis =>
      have head : ((trial.share c.benchmarks run benchmark).map fun log =>
          measure (c.values log)).sum =
            c.benchmarks.count benchmark * measure (trial.samples c run benchmark) := by
        unfold Trial.share Trial.samples
        split
        · cases trial.log benchmark <;> simp
        · simp
      rw [samples_cons, map_add, Nat.mul_add, ← head, ← inductionHypothesis]
      simp [pool]

theorem sum_totals_pool (c : Collector) (trials : List Trial) (run benchmark : String) :
    ((c.pool trials run benchmark).map fun log => (c.sizes log).1).sum =
      c.benchmarks.count benchmark * exactTotal (c.samples trials run benchmark) :=
  c.sum_map_pool exactTotalHom trials run benchmark

theorem sum_kernels_pool (c : Collector) (trials : List Trial) (run benchmark : String) :
    ((c.pool trials run benchmark).map fun log => (c.sizes log).2).sum =
      c.benchmarks.count benchmark * (c.samples trials run benchmark).card :=
  c.sum_map_pool Multiset.cardHom trials run benchmark

/-- The exact sum and number of the samples of a run and a benchmark fit into words, taken once for
each entry of the benchmark in the list. -/
def Fits (c : Collector) (trials : List Trial) (run benchmark : String) : Prop :=
  c.benchmarks.count benchmark * exactTotal (c.samples trials run benchmark) < UInt64.size ∧
    c.benchmarks.count benchmark * (c.samples trials run benchmark).card < UInt64.size

/-- The bucket that keeps the exact sum and number of the samples of a run and a benchmark, once for
each entry of the benchmark in the list. -/
def exactBucket (c : Collector) (trials : List Trial) (run benchmark : String) : Bucket :=
  .ofExact (c.benchmarks.count benchmark * exactTotal (c.samples trials run benchmark))
    (c.benchmarks.count benchmark * (c.samples trials run benchmark).card)

/-- Where the sums fit, the pooled bucket is the exact one. -/
theorem pooled_pool_of_fits {c : Collector} {trials : List Trial} {run benchmark : String}
    (fits : c.Fits trials run benchmark) :
    c.pooled (c.pool trials run benchmark) = c.exactBucket trials run benchmark := by
  have total := c.sum_totals_pool trials run benchmark
  have kernels := c.sum_kernels_pool trials run benchmark
  rw [pooled_eq_ofExact (by rw [total]; exact fits.1) (by rw [kernels]; exact fits.2), total,
    kernels, exactBucket]

end Collector

section Collected

variable {c : Collector} {logs : Bytes → LogState} {plan : Plan} {collection : Collection}

/-- The runs of a collection are those of its trials. -/
theorem exists_run_iff_of_collectPlan (collected : c.collectPlan logs plan = .ok collection)
    (name : String) :
    (∃ run ∈ collection.store.runs, run.name = name) ↔
      name ∈ (plan.trials logs).map (·.run) := by
  have reference : collection.store = c.referenceStore (plan.trials logs) :=
    (Collector.reference_of_folders collected).1
  rw [reference]
  simp [Collector.referenceStore, Store.tabulate, Run.tabulate]

/-- The runs of a collection are tables of pooled buckets. -/
theorem run_of_collectPlan (collected : c.collectPlan logs plan = .ok collection) {run : Run}
    (member : run ∈ collection.store.runs) :
    run = .tabulate c.benchmarks run.name fun benchmark =>
      c.pooled (c.pool (plan.trials logs) run.name benchmark) := by
  rw [(Collector.reference_of_folders collected).1] at member
  obtain ⟨name, -, rfl⟩ := List.mem_map.mp member
  rfl

/-- A run whose sums fit has the exact buckets. -/
theorem buckets_of_collectPlan (collected : c.collectPlan logs plan = .ok collection) {run : Run}
    (member : run ∈ collection.store.runs)
    (fits : ∀ benchmark ∈ c.benchmarks, c.Fits (plan.trials logs) run.name benchmark) :
    run.buckets = slots (c.exactBucket (plan.trials logs) run.name) c.benchmarks := by
  rw [run_of_collectPlan collected member]
  exact slots_congr fun benchmark listed => Collector.pooled_pool_of_fits (fits benchmark listed)

end Collected
end Occupancy
