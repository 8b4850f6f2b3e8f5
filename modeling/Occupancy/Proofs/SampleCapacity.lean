/-
Module: Occupancy.Proofs.SampleCapacity
Purpose: How many samples a bucket is sure to hold, and what bounds it beyond that.
Main exports: Collector.scan?, Collector.pooled?, Collector.pooled?_eq_some, Bucket.Bounded,
  Collector.bounded_pooled, exists_dropped_sample, samples_within_capacity
-/
import Occupancy.Proofs.BucketHistory
import Occupancy.Proofs.SampleMultiset
import Occupancy.Proofs.StoreHistory

namespace Occupancy

/-!
A sample is less than 2³², so 2³² + 1 samples have a sum of at most (2³² + 1) · (2³² − 1) = 2⁶⁴ − 1,
the greatest word. That many samples are therefore counted in full, however they are spread over logs:
what is said of one log and of the buckets merged before it are parts of the same sum. The strict
loops below are those of a scan, except that they stop at the first addition that is refused; that
they come to an end tells that none was.

One sample more can be one too many. And a bucket that has refused additions, of single samples or of
whole logs, still never has more in its total than its number of kernels allows, because an addition
takes over both numbers or neither.
-/

/-- The greatest sample. -/
def maxSample : Nat := UInt32.size - 1

/-! ### Scans that refuse nothing -/

namespace Collector

/-- Count a line into a bucket, or stop where its value is refused. -/
def scanLine? (c : Collector) (bucket : Bucket) (line : Bytes) : Option Bucket :=
  match c.counted? (trimLineEnd (Text.decodeLossy line)) with
  | some value => bucket.record? value
  | none => some bucket

/-- The bucket of one log, unless one of its samples is refused. -/
def scan? (c : Collector) (log : Bytes) : Option Bucket :=
  (Text.lines log).foldlM c.scanLine? .empty

/-- Merge the buckets of some logs, unless a sample or a log is refused. -/
def pooled? (c : Collector) (logs : List Bytes) : Option Bucket :=
  logs.foldlM (fun merged log => (c.scan? log).bind merged.merge?) .empty

/-- The values that some logs add, log by log. -/
def allValues (c : Collector) (logs : List Bytes) : List UInt32 := logs.flatMap c.values

end Collector

/-- A strict loop that comes to an end has gone through the states of the loop that passes over what
is refused. -/
theorem foldl_of_foldlM {σ α : Type} {strict : σ → α → Option σ} {lenient : σ → α → σ}
    (agree : ∀ state item next, strict state item = some next → lenient state item = next)
    {items : List α} {state final : σ} (ended : items.foldlM strict state = some final) :
    items.foldl lenient state = final := by
  induction items generalizing state with
  | nil => exact Option.some.inj ended
  | cons item items inductionHypothesis =>
      rw [List.foldlM_cons, Option.bind_eq_bind, Option.bind_eq_some_iff] at ended
      obtain ⟨next, taken, rest⟩ := ended
      rw [List.foldl_cons, agree state item next taken]
      exact inductionHypothesis rest

namespace Collector

variable {c : Collector}

theorem scanLine_of_scanLine? {bucket next : Bucket} {line : Bytes}
    (taken : c.scanLine? bucket line = some next) : c.scanLine bucket line = next := by
  rw [scanLine?] at taken
  rw [scanLine]
  cases counted : c.counted? (trimLineEnd (Text.decodeLossy line)) with
  | none =>
      rw [counted] at taken
      exact Option.some.inj taken
  | some value =>
      rw [counted] at taken
      have accepted : bucket.record? value = some next := taken
      change bucket.record value = next
      rw [Bucket.record, accepted, Option.getD_some]

theorem scan_of_scan? {log : Bytes} {bucket : Bucket} (ended : c.scan? log = some bucket) :
    c.scan log = bucket :=
  foldl_of_foldlM (fun _ _ _ => scanLine_of_scanLine?) ended

/-- Logs that are merged without a refusal give the pooled bucket. -/
theorem pooled_of_pooled? {logs : List Bytes} {bucket : Bucket}
    (ended : c.pooled? logs = some bucket) : c.pooled logs = bucket := by
  rw [pooled_eq_foldl_merge]
  refine foldl_of_foldlM (fun merged log next taken => ?_) ended
  obtain ⟨scanned, log_ended, accepted⟩ := Option.bind_eq_some_iff.mp taken
  rw [scan_of_scan? log_ended, Bucket.merge, accepted, Option.getD_some]

end Collector

namespace Bucket

theorem record?_ofExact {total kernels : Nat} {value : UInt32}
    (totalFits : total + value.toNat < UInt64.size) (kernelsFit : kernels + 1 < UInt64.size) :
    (ofExact total kernels).record? value = some (ofExact (total + value.toNat) (kernels + 1)) := by
  rw [record?, add?_ofExact (by simpa using totalFits) (by simpa using kernelsFit)]
  simp

/-- Samples whose exact sums fit are all accepted. -/
theorem foldlM_record?_ofExact (values : List UInt32) {total kernels : Nat}
    (totalFits : total + (values.map UInt32.toNat).sum < UInt64.size)
    (kernelsFit : kernels + values.length < UInt64.size) :
    values.foldlM record? (ofExact total kernels) =
      some (ofExact (total + (values.map UInt32.toNat).sum) (kernels + values.length)) := by
  induction values generalizing total kernels with
  | nil => rfl
  | cons value values inductionHypothesis =>
      simp only [List.map_cons, List.sum_cons, List.length_cons] at totalFits kernelsFit ⊢
      rw [List.foldlM_cons, record?_ofExact (by omega) (by omega), Option.bind_eq_bind,
        Option.bind_some, inductionHypothesis (by omega) (by omega)]
      simp only [Nat.add_assoc, Nat.add_comm 1]

end Bucket

namespace Collector

variable {c : Collector}

theorem foldlM_scanLine? (bucket : Bucket) (lines : List Bytes) :
    lines.foldlM c.scanLine? bucket = (lines.filterMap c.value?).foldlM Bucket.record? bucket := by
  induction lines generalizing bucket with
  | nil => rfl
  | cons line lines inductionHypothesis =>
      have step : c.scanLine? bucket line = (c.value? line).elim (some bucket) bucket.record? := by
        rw [scanLine?, ← value?]
        cases c.value? line <;> rfl
      rw [List.foldlM_cons, step, List.filterMap_cons]
      cases c.value? line with
      | none => exact inductionHypothesis bucket
      | some value =>
          rw [List.foldlM_cons, Option.elim_some]
          exact congrArg _ (funext inductionHypothesis)

/-- A log whose exact sums fit is scanned without a refusal. -/
theorem scan?_eq_some {log : Bytes}
    (totalFits : ((c.values log).map UInt32.toNat).sum < UInt64.size)
    (kernelsFit : (c.values log).length < UInt64.size) :
    c.scan? log =
      some (.ofExact ((c.values log).map UInt32.toNat).sum (c.values log).length) := by
  rw [scan?, foldlM_scanLine?, filterMap_value?_lines, Bucket.empty_eq_ofExact,
    Bucket.foldlM_record?_ofExact _ (by rwa [Nat.zero_add]) (by rwa [Nat.zero_add]), Nat.zero_add,
    Nat.zero_add]

theorem allValues_cons (log : Bytes) (logs : List Bytes) :
    c.allValues (log :: logs) = c.values log ++ c.allValues logs := List.flatMap_cons

/-- Logs whose exact sums fit together behind what has been merged are merged without a refusal. -/
theorem foldlM_merge?_eq_some (logs : List Bytes) {total kernels : Nat}
    (totalFits : total + ((c.allValues logs).map UInt32.toNat).sum < UInt64.size)
    (kernelsFit : kernels + (c.allValues logs).length < UInt64.size) :
    logs.foldlM (fun merged log => (c.scan? log).bind merged.merge?)
        (Bucket.ofExact total kernels) =
      some (.ofExact (total + ((c.allValues logs).map UInt32.toNat).sum)
        (kernels + (c.allValues logs).length)) := by
  induction logs generalizing total kernels with
  | nil => rfl
  | cons log logs inductionHypothesis =>
      simp only [allValues_cons, List.map_append, List.sum_append, List.length_append]
        at totalFits kernelsFit ⊢
      have merged : (Bucket.ofExact total kernels).merge?
          (.ofExact ((c.values log).map UInt32.toNat).sum (c.values log).length) =
            some (.ofExact (total + ((c.values log).map UInt32.toNat).sum)
              (kernels + (c.values log).length)) := by
        have logTotal := Bucket.toNat_total_ofExact (c.values log).length
          (show ((c.values log).map UInt32.toNat).sum < UInt64.size by omega)
        have logKernels := Bucket.toNat_kernels_ofExact ((c.values log).map UInt32.toNat).sum
          (show (c.values log).length < UInt64.size by omega)
        rw [Bucket.merge?, Bucket.add?_ofExact (by omega) (by omega), logTotal, logKernels]
      rw [List.foldlM_cons, scan?_eq_some (by omega) (by omega), Option.bind_some, merged,
        Option.bind_eq_bind, Option.bind_some, inductionHypothesis (by omega) (by omega)]
      simp only [Nat.add_assoc]

/-- No samples have a greater sum than as many of the greatest. -/
theorem sum_toNat_le (values : List UInt32) :
    (values.map UInt32.toNat).sum ≤ values.length * maxSample := by
  have each : ∀ n ∈ values.map UInt32.toNat, n ≤ maxSample := by
    intro n member
    obtain ⟨value, -, rfl⟩ := List.mem_map.mp member
    exact Nat.le_sub_one_of_lt value.toNat_lt
  simpa using List.sum_le_card_nsmul _ _ each

/-- Nothing is refused of logs that hold no more than 2³² + 1 samples between them. -/
theorem pooled?_eq_some {logs : List Bytes} (few : (c.allValues logs).length ≤ 2 ^ 32 + 1) :
    ∃ bucket, c.pooled? logs = some bucket ∧
      bucket.total.toNat = ((c.allValues logs).map UInt32.toNat).sum ∧
      bucket.kernels.toNat = (c.allValues logs).length := by
  have total : ((c.allValues logs).map UInt32.toNat).sum < UInt64.size := by
    have bound : (c.allValues logs).length * maxSample ≤ (2 ^ 32 + 1) * maxSample :=
      Nat.mul_le_mul_right _ few
    exact Nat.lt_of_le_of_lt ((sum_toNat_le _).trans bound) (by decide)
  have kernels : (c.allValues logs).length < UInt64.size := Nat.lt_of_le_of_lt few (by decide)
  refine ⟨_, ?_, Bucket.toNat_total_ofExact (c.allValues logs).length total,
    Bucket.toNat_kernels_ofExact ((c.allValues logs).map UInt32.toNat).sum kernels⟩
  rw [pooled?, Bucket.empty_eq_ofExact,
    foldlM_merge?_eq_some logs (by rwa [Nat.zero_add]) (by rwa [Nat.zero_add]), Nat.zero_add,
    Nat.zero_add]

end Collector

/-! ### What bounds every bucket -/

namespace Bucket

/-- The total is no more than the number of kernels allows. -/
def Bounded (b : Bucket) : Prop := b.total.toNat ≤ b.kernels.toNat * maxSample

theorem bounded_empty : empty.Bounded := Nat.le_refl _

/-- An addition that is accepted takes over both numbers. -/
theorem Bounded.add? {b next : Bucket} {total kernels : UInt64} (bounded : b.Bounded)
    (bound : total.toNat ≤ kernels.toNat * maxSample) (added : b.add? total kernels = some next) :
    next.Bounded := by
  rw [add?_eq_ofExact] at added
  split at added
  · next fits =>
      cases added
      rw [Bounded, toNat_total_ofExact _ fits.1, toNat_kernels_ofExact _ fits.2, Nat.add_mul]
      exact Nat.add_le_add bounded bound
  · cases added

theorem Bounded.record {b : Bucket} (bounded : b.Bounded) (value : UInt32) :
    (b.record value).Bounded := by
  rw [Bucket.record]
  cases recorded : b.record? value with
  | none => exact bounded
  | some next =>
      refine bounded.add? ?_ recorded
      rw [UInt32.toNat_toUInt64, UInt64.toNat_one, Nat.one_mul]
      exact Nat.le_sub_one_of_lt value.toNat_lt

theorem Bounded.merge {b other : Bucket} (bounded : b.Bounded) (otherBounded : other.Bounded) :
    (b.merge other).Bounded := by
  rw [Bucket.merge]
  cases merged : b.merge? other with
  | none => exact bounded
  | some next => exact bounded.add? otherBounded merged

theorem Bounded.total_eq_zero {b : Bucket} (bounded : b.Bounded) (none : b.kernels = 0) :
    b.total = 0 := by
  rw [Bounded, none, UInt64.toNat_zero, Nat.zero_mul, Nat.le_zero] at bounded
  exact UInt64.toNat_inj.mp bounded

theorem bounded_foldl_record (values : List UInt32) {b : Bucket} (bounded : b.Bounded) :
    (values.foldl record b).Bounded := by
  induction values generalizing b with
  | nil => exact bounded
  | cons value values inductionHypothesis => exact inductionHypothesis (bounded.record value)

end Bucket

namespace Collector

theorem bounded_scan (c : Collector) (log : Bytes) : (c.scan log).Bounded := by
  rw [scan_eq_foldl_record]
  exact Bucket.bounded_foldl_record _ Bucket.bounded_empty

/-- Every pooled bucket is bounded, whatever has been refused. -/
theorem bounded_pooled (c : Collector) (logs : List Bytes) : (c.pooled logs).Bounded := by
  induction logs using List.reverseRecOn with
  | nil => exact Bucket.bounded_empty
  | append_singleton logs log inductionHypothesis =>
      rw [pooled_concat]
      exact inductionHypothesis.merge (c.bounded_scan log)

/-! ### One sample too many -/

/-- Where one more of the same samples does not fit, it is refused, and the ones before it stay. -/
theorem foldl_record_replicate {value : UInt32} {count : Nat}
    (fits : count * value.toNat < UInt64.size) (kernelsFit : count < UInt64.size)
    (overflow : UInt64.size ≤ count * value.toNat + value.toNat) :
    (List.replicate (count + 1) value).foldl Bucket.record .empty =
      .ofExact (count * value.toNat) count := by
  have full : (List.replicate count value).foldl Bucket.record (Bucket.ofExact 0 0) =
      .ofExact (count * value.toNat) count := by
    rw [Bucket.foldl_record_ofExact _ (by simpa using fits) (by simpa using kernelsFit)]
    simp
  have refused : ¬(Bucket.ofExact (count * value.toNat) count).Takes value.toUInt64 1 := by
    rintro ⟨total, -⟩
    rw [Bucket.toNat_total_ofExact _ fits, UInt32.toNat_toUInt64] at total
    omega
  rw [List.replicate_succ', List.foldl_append, Bucket.empty_eq_ofExact, full, List.foldl_cons,
    List.foldl_nil, Bucket.record_eq_ite, if_neg refused]

/-- A log of the same line over and over. -/
def repeatedLine (line : Bytes) : Nat → Bytes
  | 0 => []
  | count + 1 => line ++ 0x0A :: repeatedLine line count

theorem values_repeatedLine {c : Collector} {line : Bytes} {value : UInt32}
    (one : c.values line = [value]) (count : Nat) :
    c.values (repeatedLine line count) = List.replicate count value := by
  induction count with
  | zero => exact c.values_nil
  | succ count inductionHypothesis =>
      rw [repeatedLine, values_append_lineFeed_append, one, inductionHypothesis]
      rfl

/-- Of 2³² + 2 greatest samples in one log the last one is refused. -/
theorem scan_repeatedLine {c : Collector} {line : Bytes} {value : UInt32}
    (one : c.values line = [value]) (greatest : value.toNat = maxSample) :
    c.scan (repeatedLine line (2 ^ 32 + 1 + 1)) =
      .ofExact ((2 ^ 32 + 1) * maxSample) (2 ^ 32 + 1) := by
  have dropped := @foldl_record_replicate value (2 ^ 32 + 1)
  rw [greatest] at dropped
  rw [scan_eq_foldl_record, values_repeatedLine one,
    dropped (by decide) (by decide) (by decide)]

end Collector

/-- A bucket that a collection has is the pooled one. -/
theorem get?_of_collectPlan {c : Collector} {logs : Bytes → LogState} {plan : Plan}
    {collection : Collection} (collected : c.collectPlan logs plan = .ok collection)
    (run benchmark : String) :
    collection.store.get? run benchmark =
      if run ∈ (plan.trials logs).map (·.run) ∧ benchmark ∈ c.benchmarks then
        some (c.pooled (c.pool (plan.trials logs) run benchmark))
      else none := by
  rw [(Collector.reference_of_folders collected).1, Collector.referenceStore, Store.get?_tabulate]
  simp only [List.mem_eraseDups]
  rfl

/-- Every bucket of a collection is bounded, also the empty ones of repeated names. -/
theorem bounded_of_collectPlan {c : Collector} {logs : Bytes → LogState} {plan : Plan}
    {collection : Collection} (collected : c.collectPlan logs plan = .ok collection) {run : Run}
    (member : run ∈ collection.store.runs) {slot : BenchmarkBucket} (inside : slot ∈ run.buckets) :
    slot.bucket.Bounded := by
  rw [run_of_collectPlan collected member] at inside
  obtain ⟨-, pooled | blank⟩ := bucket_eq_of_mem_slots inside
  · exact pooled ▸ c.bounded_pooled _
  · exact blank ▸ Bucket.bounded_empty

/-- A line with the greatest sample there is. -/
def greatestLine : Bytes := Path.ofString "Final occupancy for function gemm:4294967295"

/-- A collection of one log with 2³² + 2 of the greatest samples has a bucket that lacks one. -/
theorem exists_dropped_sample :
    ∃ (c : Collector) (logs : Bytes → LogState) (plan : Plan) (collection : Collection)
      (run benchmark : String) (bucket : Bucket),
      c.collectPlan logs plan = .ok collection ∧
      collection.store.get? run benchmark = some bucket ∧
      (c.allValues (c.pool (plan.trials logs) run benchmark)).length = 2 ^ 32 + 2 ∧
      bucket.total.toNat = 2 ^ 64 - 1 ∧ bucket.kernels.toNat = 2 ^ 32 + 1 := by
  let c : Collector := ⟨["vgg16"], [], .standard⟩
  let plan : Plan := ⟨[.ofFolder [0x61] "a-1"], []⟩
  have runName : (RunFolder.ofFolder [0x61] "a-1").runName = "a" := by decide +kernel
  have one : c.values greatestLine = [4294967295] := by decide +kernel
  have collects (log : Bytes) : ∃ collection,
      c.collectPlan (fun _ => .present log) plan = .ok collection ∧
      collection.store.get? "a" "vgg16" = some (c.pooled [log]) ∧
      c.pool (plan.trials fun _ => .present log) "a" "vgg16" = [log] := by
    have merged : c.pool (plan.trials fun _ => .present log) "a" "vgg16" = [log] := by
      simp [Collector.pool, Trial.share, Plan.trials, plan, RunFolder.trial, runName, c,
        LogState.data?]
    obtain ⟨collection, collected⟩ : ∃ collection,
        c.collectPlan (fun _ => .present log) plan = .ok collection := ⟨_, rfl⟩
    refine ⟨collection, collected, ?_, merged⟩
    rw [get?_of_collectPlan collected, merged, if_pos]
    simp [Plan.trials, plan, RunFolder.trial, runName, c]
  have dropped : c.pooled [Collector.repeatedLine greatestLine (2 ^ 32 + 1 + 1)] =
      .ofExact ((2 ^ 32 + 1) * maxSample) (2 ^ 32 + 1) := by
    have merged := c.pooled_concat [] (Collector.repeatedLine greatestLine (2 ^ 32 + 1 + 1))
    rw [List.nil_append, Collector.pooled_nil, Collector.scan_repeatedLine one (by decide),
      Bucket.empty_eq_ofExact, Bucket.merge_ofExact (by decide) (by decide)] at merged
    rwa [Nat.zero_add, Nat.zero_add] at merged
  obtain ⟨collection, collected, found, merged⟩ :=
    collects (Collector.repeatedLine greatestLine (2 ^ 32 + 1 + 1))
  refine ⟨c, _, plan, collection, "a", "vgg16", _, collected, found, ?_, ?_, ?_⟩
  · rw [merged, Collector.allValues, List.flatMap_singleton, Collector.values_repeatedLine one,
      List.length_replicate]
  · rw [dropped, Bucket.toNat_total_ofExact _ (by decide)]
    decide
  · rw [dropped, Bucket.toNat_kernels_ofExact _ (by decide)]

/-- What a collection counts. As long as the logs that are merged into a bucket hold no more than
2³² + 1 samples that count, no sample and no log is refused, and the bucket has their exact sum and
number. One sample more can be lost. And no bucket of any collection has a greater total than its
number of kernels allows, whatever has been refused, so that one without kernels has no total. -/
theorem samples_within_capacity :
    (∀ (c : Collector) (logs : Bytes → LogState) (plan : Plan) (collection : Collection),
      c.collectPlan logs plan = .ok collection →
      (∀ run benchmark bucket, collection.store.get? run benchmark = some bucket →
        let merged := c.pool (plan.trials logs) run benchmark
        (c.allValues merged).length ≤ 2 ^ 32 + 1 →
        c.pooled? merged = some bucket ∧
          bucket.total.toNat = ((c.allValues merged).map UInt32.toNat).sum ∧
          bucket.kernels.toNat = (c.allValues merged).length) ∧
      ∀ run ∈ collection.store.runs, ∀ slot ∈ run.buckets,
        slot.bucket.total.toNat ≤ slot.bucket.kernels.toNat * (2 ^ 32 - 1) ∧
          (slot.bucket.kernels = 0 → slot.bucket.total = 0)) ∧
    ∃ (c : Collector) (logs : Bytes → LogState) (plan : Plan) (collection : Collection)
      (run benchmark : String) (bucket : Bucket),
      c.collectPlan logs plan = .ok collection ∧
      collection.store.get? run benchmark = some bucket ∧
      (c.allValues (c.pool (plan.trials logs) run benchmark)).length = 2 ^ 32 + 2 ∧
      bucket.total.toNat = 2 ^ 64 - 1 ∧ bucket.kernels.toNat = 2 ^ 32 + 1 := by
  refine ⟨fun c logs plan collection collected => ⟨?_, ?_⟩, exists_dropped_sample⟩
  · intro run benchmark bucket found merged few
    rw [get?_of_collectPlan collected, Option.ite_none_right_eq_some, Option.some.injEq] at found
    obtain ⟨exact, ended, total, kernels⟩ := Collector.pooled?_eq_some few
    obtain rfl : bucket = exact := found.2.symm.trans (Collector.pooled_of_pooled? ended)
    exact ⟨ended, total, kernels⟩
  · intro run member slot inside
    have bounded := bounded_of_collectPlan collected member inside
    exact ⟨bounded, bounded.total_eq_zero⟩

/-- Two trials of a run, one of them without the log of a benchmark that is listed twice: the log that
is there is merged twice, and all its samples are counted. -/
theorem samples_within_capacity_interleaved :
    let c : Collector := ⟨["vgg16", "vgg19", "vgg16"], standardIgnoredKernels, .standard⟩
    ∃ collection bucket, c.collectPlan interleavedLogs interleavedPlan = .ok collection ∧
      collection.store.get? "a" "vgg16" = some bucket ∧
      bucket.total.toNat = 100 ∧ bucket.kernels.toNat = 2 := by
  intro c
  have counted : c.allValues (c.pool (interleavedPlan.trials interleavedLogs) "a" "vgg16") =
      [50, 50] := by
    decide +kernel
  obtain ⟨collection, collected⟩ : ∃ collection,
      c.collectPlan interleavedLogs interleavedPlan = .ok collection := ⟨_, rfl⟩
  have found := get?_of_collectPlan collected "a" "vgg16"
  rw [if_pos (by decide +kernel)] at found
  obtain ⟨-, total, kernels⟩ :=
    (samples_within_capacity.1 c _ _ collection collected).1 "a" "vgg16" _ found
      (by rw [counted]; decide)
  rw [counted] at total kernels
  exact ⟨collection, _, collected, found, total, kernels⟩

end Occupancy
