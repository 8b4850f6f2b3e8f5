/-
Module: Occupancy.Proofs.SummaryEntries
Purpose: What a summary tells of the buckets of a run, and what of them it does not see.
Main exports: FirstSums, Summarizes, summarizes_iff, Unseen, Store.SameSeen,
  StoreOperation.averaged_table, summarize_tells_buckets
-/
import Mathlib.Data.List.Forall2
import Occupancy.Proofs.BucketHistory
import Occupancy.Proofs.ReportAgreement
import Occupancy.Proofs.StoreHistory

namespace Occupancy

/-!
A summary is told here without the order in which it is made. An entry stands for each name of the
benchmark list and has the sums of the first bucket of that name; the sums of the run are those of its
entries, cut off once at the greatest word; and every average is the quotient of the sums beside it.
These clauses leave nothing open (`summarizes_iff`), so what they do not mention has no influence: the
averages that buckets keep, the buckets of names that are not listed, and all buckets of a name but
the first.

The average of an entry is computed anew, and a bucket keeps one of its own. The two agree in every
store that samples and buckets are only added to, because each addition that is accepted computes the
average in the same way and a bucket that nothing was added to keeps the average of no samples.
-/

section Entries

/-- What some buckets hold of a benchmark: the sums of the first bucket of the name, and no samples
where there is none. -/
inductive FirstSums (benchmark : String) : List BenchmarkBucket → UInt64 → UInt64 → Prop where
  | found (before after : List BenchmarkBucket) (bucket : Bucket)
      (earlier : ∀ slot ∈ before, slot.benchmark ≠ benchmark) :
      FirstSums benchmark (before ++ ⟨benchmark, bucket⟩ :: after) bucket.total bucket.kernels
  | absent {buckets : List BenchmarkBucket} (others : ∀ slot ∈ buckets, slot.benchmark ≠ benchmark) :
      FirstSums benchmark buckets 0 0

/-- The summary of a run over a benchmark list, told entry by entry. -/
structure Summarizes (benchmarks : List String) (run : Run) (summary : RunSummary) : Prop where
  name : summary.name = run.name
  listed : summary.benchmarks.map (·.benchmark) = benchmarks
  sums : ∀ entry ∈ summary.benchmarks,
    FirstSums entry.benchmark run.buckets entry.total entry.kernels
  averages : ∀ entry ∈ summary.benchmarks,
    entry.average = if entry.kernels = 0 then 0.0 else entry.total.toFloat / entry.kernels.toFloat
  total : summary.total.toNat =
    min (2 ^ 64 - 1) (summary.benchmarks.map fun entry => entry.total.toNat).sum
  kernels : summary.kernels.toNat =
    min (2 ^ 64 - 1) (summary.benchmarks.map fun entry => entry.kernels.toNat).sum
  none_iff : summary.average = none ↔ ∀ entry ∈ summary.benchmarks, entry.kernels = 0
  quotient : ∀ x, summary.average = some x → x = summary.total.toFloat / summary.kernels.toFloat

/-- The sums that the first bucket of a name holds. -/
def firstSums (benchmark : String) (buckets : List BenchmarkBucket) : UInt64 × UInt64 :=
  ((buckets.find? (·.benchmark == benchmark)).map fun slot =>
    (slot.bucket.total, slot.bucket.kernels)).getD (0, 0)

theorem firstSums_iff {benchmark : String} {buckets : List BenchmarkBucket}
    {total kernels : UInt64} :
    FirstSums benchmark buckets total kernels ↔ firstSums benchmark buckets = (total, kernels) := by
  constructor
  · rintro (⟨before, after, bucket, earlier⟩ | others)
    · have search : (before ++ ⟨benchmark, bucket⟩ :: after).find? (·.benchmark == benchmark) =
          some ⟨benchmark, bucket⟩ := by
        rw [List.find?_eq_some_iff_append]
        exact ⟨beq_self_eq_true _, before, after, rfl, by simpa using earlier⟩
      rw [firstSums, search]
      rfl
    · rw [firstSums, List.find?_eq_none.mpr (by simpa using others)]
      rfl
  · intro same
    rw [firstSums] at same
    cases search : buckets.find? (·.benchmark == benchmark) with
    | none =>
        rw [search] at same
        cases same
        exact .absent (by simpa using List.find?_eq_none.mp search)
    | some slot =>
        rw [search] at same
        obtain ⟨hit, before, after, rfl, earlier⟩ := List.find?_eq_some_iff_append.mp search
        obtain rfl : slot.benchmark = benchmark := eq_of_beq hit
        cases same
        exact .found before after slot.bucket (by simpa using earlier)

/-- The entry of a benchmark sees the sums of the first bucket of its name and no more. -/
theorem benchmarkAverage_eq (run : Run) (benchmark : String) :
    benchmarkAverage run benchmark =
      let sums := firstSums benchmark run.buckets
      ⟨benchmark, sums.1, sums.2, (average sums.1 sums.2).getD 0.0⟩ := by
  rw [benchmarkAverage, firstSums, Run.get?]
  cases run.buckets.find? (·.benchmark == benchmark) <;> rfl

theorem getD_average (total kernels : UInt64) :
    (average total kernels).getD 0.0 =
      if kernels = 0 then 0.0 else total.toFloat / kernels.toFloat := by
  rw [average]
  split <;> rfl

/-- The entries of a list of names are told by their names, sums and averages. -/
theorem eq_map_benchmarkAverage {benchmarks : List String} {run : Run}
    {entries : List BenchmarkAverage} (listed : entries.map (·.benchmark) = benchmarks)
    (sums : ∀ entry ∈ entries, FirstSums entry.benchmark run.buckets entry.total entry.kernels)
    (averages : ∀ entry ∈ entries, entry.average =
      if entry.kernels = 0 then 0.0 else entry.total.toFloat / entry.kernels.toFloat) :
    entries = benchmarks.map (benchmarkAverage run) := by
  have each : ∀ entry ∈ entries, benchmarkAverage run entry.benchmark = entry := by
    intro entry member
    rw [benchmarkAverage_eq, firstSums_iff.mp (sums entry member)]
    dsimp only
    rw [getD_average, ← averages entry member]
  rw [← listed, List.map_map]
  exact ((List.map_congr_left each).trans (List.map_id _)).symm

/-- The sum that a summary keeps of its entries, in exact numbers. -/
theorem toNat_sum_entries (word : BenchmarkAverage → UInt64) (entries : List BenchmarkAverage) :
    (entries.foldl (fun sum entry => saturatingAdd sum (word entry)) 0).toNat =
      min (2 ^ 64 - 1) (entries.map fun entry => (word entry).toNat).sum := by
  rw [toNat_foldl_saturatingAdd, UInt64.toNat_zero, Nat.zero_add, Nat.min_comm]
  rfl

/-- A cut sum of words is zero exactly if every word is. -/
theorem sum_entries_eq_zero_iff (word : BenchmarkAverage → UInt64)
    (entries : List BenchmarkAverage) :
    entries.foldl (fun sum entry => saturatingAdd sum (word entry)) 0 = 0 ↔
      ∀ entry ∈ entries, word entry = 0 := by
  rw [← UInt64.toNat_inj, toNat_sum_entries, UInt64.toNat_zero, Nat.min_eq_zero_iff,
    or_iff_right (by decide), List.sum_eq_zero_iff_forall_eq_nat]
  simp [← UInt64.toNat_inj]

variable {benchmarks : List String} {run : Run}

theorem summarizes_summarizeRun : Summarizes benchmarks run (summarizeRun run benchmarks) where
  name := rfl
  listed := by simp [summarizeRun, benchmarkAverage, Function.comp_def]
  sums := by
    intro entry member
    obtain ⟨benchmark, -, rfl⟩ := List.mem_map.mp member
    rw [benchmarkAverage_eq, firstSums_iff]
  averages := by
    intro entry member
    obtain ⟨benchmark, -, rfl⟩ := List.mem_map.mp member
    exact getD_average _ _
  total := toNat_sum_entries (·.total) _
  kernels := toNat_sum_entries (·.kernels) _
  none_iff := summarizeRun_average_eq_none_iff.trans (sum_entries_eq_zero_iff (·.kernels) _)
  quotient := by
    intro x averaged
    have counted : (summarizeRun run benchmarks).kernels ≠ 0 := by
      intro zero
      rw [summarizeRun_average_eq_none_iff.mpr zero] at averaged
      cases averaged
    rw [summarizeRun_average_eq_some counted] at averaged
    exact (Option.some.inj averaged).symm

/-- What a summary tells leaves nothing open. -/
theorem Summarizes.unique {first second : RunSummary} (one : Summarizes benchmarks run first)
    (two : Summarizes benchmarks run second) : first = second := by
  have entries : first.benchmarks = second.benchmarks :=
    (eq_map_benchmarkAverage one.listed one.sums one.averages).trans
      (eq_map_benchmarkAverage two.listed two.sums two.averages).symm
  have total : first.total = second.total :=
    UInt64.toNat_inj.mp (by rw [one.total, two.total, entries])
  have kernels : first.kernels = second.kernels :=
    UInt64.toNat_inj.mp (by rw [one.kernels, two.kernels, entries])
  have missing : first.average = none ↔ second.average = none := by
    rw [one.none_iff, two.none_iff, entries]
  have averages : first.average = second.average := by
    cases here : first.average with
    | none => exact (missing.mp here).symm
    | some x =>
        cases there : second.average with
        | none =>
            rw [missing.mpr there] at here
            cases here
        | some y => rw [one.quotient x here, two.quotient y there, total, kernels]
  obtain ⟨name, benchmarks, firstTotal, firstKernels, average⟩ := first
  obtain ⟨name', benchmarks', secondTotal, secondKernels, average'⟩ := second
  obtain rfl : name = name' := one.name.trans two.name.symm
  cases entries
  cases total
  cases kernels
  cases averages
  rfl

theorem summarizes_iff {summary : RunSummary} :
    Summarizes benchmarks run summary ↔ summarizeRun run benchmarks = summary :=
  ⟨summarizes_summarizeRun.unique, fun made => made ▸ summarizes_summarizeRun⟩

end Entries

/-! ### What a summary does not see -/

/-- Buckets that differ in what a summary over a benchmark list does not see. -/
inductive Unseen (benchmarks : List String) :
    List BenchmarkBucket → List BenchmarkBucket → Prop where
  /-- The average that a bucket keeps is another one. -/
  | average (before after : List BenchmarkBucket) (name : String) {bucket other : Bucket}
      (same : bucket.SameSums other) :
      Unseen benchmarks (before ++ ⟨name, bucket⟩ :: after) (before ++ ⟨name, other⟩ :: after)
  /-- A bucket of a benchmark that is not listed is left out. -/
  | unlisted (before after : List BenchmarkBucket) {slot : BenchmarkBucket}
      (unlisted : slot.benchmark ∉ benchmarks) :
      Unseen benchmarks (before ++ slot :: after) (before ++ after)
  /-- A bucket is left out that stands behind another one of its name. -/
  | repeated (before after : List BenchmarkBucket) {slot : BenchmarkBucket}
      (earlier : ∃ first ∈ before, first.benchmark = slot.benchmark) :
      Unseen benchmarks (before ++ slot :: after) (before ++ after)
  | same (buckets : List BenchmarkBucket) : Unseen benchmarks buckets buckets
  /-- What has been left out is put in. -/
  | back {buckets others : List BenchmarkBucket} (unseen : Unseen benchmarks buckets others) :
      Unseen benchmarks others buckets
  | andThen {buckets middle others : List BenchmarkBucket}
      (first : Unseen benchmarks buckets middle) (second : Unseen benchmarks middle others) :
      Unseen benchmarks buckets others

/-- Leaving out a bucket that the search does not stop at leaves what it finds. -/
theorem find?_append_cons_of_missed {before after : List BenchmarkBucket} {slot : BenchmarkBucket}
    {benchmark : String}
    (missed : slot.benchmark = benchmark → ∃ first ∈ before, first.benchmark = benchmark) :
    (before ++ slot :: after).find? (·.benchmark == benchmark) =
      (before ++ after).find? (·.benchmark == benchmark) := by
  rw [List.find?_append, List.find?_append, List.find?_cons]
  by_cases hit : slot.benchmark = benchmark
  · obtain ⟨first, member, named⟩ := missed hit
    have found : (before.find? (·.benchmark == benchmark)).isSome :=
      List.find?_isSome.mpr ⟨first, member, beq_iff_eq.mpr named⟩
    rw [Option.or_of_isSome found, Option.or_of_isSome found]
  · rw [beq_false_of_ne hit]

/-- The sums of listed benchmarks are seen alike. -/
theorem Unseen.firstSums_eq {benchmarks : List String} {buckets others : List BenchmarkBucket}
    (unseen : Unseen benchmarks buckets others) {benchmark : String}
    (listed : benchmark ∈ benchmarks) :
    firstSums benchmark buckets = firstSums benchmark others := by
  induction unseen with
  | average before after name same =>
      rw [firstSums, firstSums, List.find?_append, List.find?_append, List.find?_cons,
        List.find?_cons]
      cases before.find? (·.benchmark == benchmark) with
      | some slot => rfl
      | none =>
          cases name == benchmark with
          | false => rfl
          | true => exact Prod.ext same.1 same.2
  | unlisted before after unlisted =>
      rw [firstSums, firstSums, find?_append_cons_of_missed]
      rintro rfl
      exact absurd listed unlisted
  | repeated before after earlier =>
      rw [firstSums, firstSums, find?_append_cons_of_missed]
      rintro rfl
      exact earlier
  | same _ => rfl
  | back _ inductionHypothesis => exact inductionHypothesis.symm
  | andThen _ _ firstEq secondEq => exact firstEq.trans secondEq

theorem Unseen.summarizeRun_eq {benchmarks : List String} {run other : Run}
    (name : run.name = other.name) (unseen : Unseen benchmarks run.buckets other.buckets) :
    summarizeRun run benchmarks = summarizeRun other benchmarks := by
  have entries : benchmarks.map (benchmarkAverage run) =
      benchmarks.map (benchmarkAverage other) := by
    apply List.map_congr_left
    intro benchmark listed
    rw [benchmarkAverage_eq, benchmarkAverage_eq, unseen.firstSums_eq listed]
  rw [summarizeRun, summarizeRun, name, entries]

/-- Two stores have the same runs over the same benchmark list, but for what a summary does not see
of their buckets. -/
structure Store.SameSeen (first second : Store) : Prop where
  benchmarks : first.benchmarks = second.benchmarks
  runs : List.Forall₂ (fun run other =>
    run.name = other.name ∧ Unseen first.benchmarks run.buckets other.buckets)
    first.runs second.runs

theorem Store.SameSeen.summarize_eq {first second : Store} (same : first.SameSeen second) :
    summarize first = summarize second := by
  have each : List.Forall₂ (fun run other =>
      summarizeRun run first.benchmarks = summarizeRun other first.benchmarks)
      first.runs second.runs :=
    same.runs.imp fun _ _ alike => alike.2.summarizeRun_eq alike.1
  rw [← List.forall₂_map_right_iff, ← List.forall₂_map_left_iff, List.forall₂_eq_eq_eq] at each
  rw [summarize, summarize, ← same.benchmarks, each]

/-! ### Averages that are kept -/

/-- The operation adds samples or buckets, or only mentions a run. -/
def StoreOperation.Adds : StoreOperation → Prop
  | mention _ | change _ _ (.record _) | change _ _ (.merge _) => True
  | change _ _ (.assign _) => False

theorem Bucket.averaged_empty : Bucket.empty.Averaged := rfl

/-- Adding keeps the average of a bucket the quotient of its sums. -/
theorem StoreOperation.averaged_bucket {operation : StoreOperation} (adds : operation.Adds)
    {b : Bucket} (averaged : b.Averaged) : (operation.bucket b).Averaged := by
  cases operation with
  | mention _ => exact averaged
  | change run benchmark how =>
      cases how with
      | record value => exact b.averaged_addAll [.sample value] (.inl averaged)
      | merge other => exact b.averaged_addAll [.other other] (.inl averaged)
      | assign _ => cases adds

/-- In a store that is only added to, every bucket keeps the quotient of its sums. -/
theorem StoreOperation.averaged_table {operations : List StoreOperation}
    (adds : ∀ operation ∈ operations, operation.Adds) (run benchmark : String) :
    (table operations run benchmark).Averaged := by
  induction operations using List.reverseRecOn with
  | nil => exact Bucket.averaged_empty
  | append_singleton operations operation inductionHypothesis =>
      simp only [List.mem_append, List.mem_singleton] at adds
      have before := inductionHypothesis fun operation member => adds operation (Or.inl member)
      have behind : table (operations ++ [operation]) =
          operation.tabled (table operations) := by
        rw [table, List.foldl_append]
        rfl
      rw [behind, tabled_eq_ite]
      split
      · exact averaged_bucket (adds operation (Or.inr rfl)) before
      · exact before

/-- There the average of every entry is the one that its bucket keeps. -/
theorem average_kept_of_adds {benchmarks : List String} {operations : List StoreOperation}
    (adds : ∀ operation ∈ operations, operation.Adds) {run : Run}
    (member : run ∈ (Store.afterAll benchmarks operations).runs) {entry : BenchmarkAverage}
    (entered : entry ∈ (summarizeRun run benchmarks).benchmarks) :
    (run.get? entry.benchmark).map (·.average) = some entry.average := by
  rw [Store.afterAll_eq_tabulate] at member
  obtain ⟨name, -, rfl⟩ := List.mem_map.mp member
  obtain ⟨benchmark, listed, rfl⟩ := List.mem_map.mp entered
  have averaged := StoreOperation.averaged_table adds name benchmark
  have found : (Run.tabulate benchmarks name (StoreOperation.table operations name)).get? benchmark =
      some (StoreOperation.table operations name benchmark) := Run.get?_tabulate listed
  simp only [benchmarkAverage, found, Option.map_some, Option.getD_some]
  rw [getD_average, ← averaged]

/-- The summaries of any store, whatever buckets its runs have and whatever averages they keep. There
is one for each run, in the order of the store: it has an entry for each name of the benchmark list,
with the sums of the first bucket of that name, the sums of all entries, cut off at the greatest word,
and their quotient unless nothing was counted; and no other list of summaries is told so. Stores that
differ only in averages, in buckets of benchmarks that are not listed, and in buckets behind the first
of their name have the same summaries. And in a store that was made by adding samples and buckets the
average of every entry is the one that its bucket keeps. -/
theorem summarize_tells_buckets (s : Store) :
    (∀ summaries, List.Forall₂ (Summarizes s.benchmarks) s.runs summaries ↔
      summarize s = summaries) ∧
    (∀ other, s.SameSeen other → summarize s = summarize other) ∧
    ∀ benchmarks operations, s = .afterAll benchmarks operations →
      (∀ operation ∈ operations, operation.Adds) →
      List.Forall₂ (fun run summary => ∀ entry ∈ summary.benchmarks,
        (run.get? entry.benchmark).map (·.average) = some entry.average) s.runs (summarize s) := by
  refine ⟨fun summaries => ?_, fun other same => same.summarize_eq, ?_⟩
  · have told : Summarizes s.benchmarks =
        fun run summary => summarizeRun run s.benchmarks = summary := by
      funext run summary
      exact propext summarizes_iff
    rw [told, ← List.forall₂_map_left_iff, List.forall₂_eq_eq_eq, summarize]
  · rintro benchmarks operations rfl adds
    have listed : (Store.afterAll benchmarks operations).benchmarks = benchmarks := by
      rw [Store.afterAll_eq_tabulate]
      rfl
    rw [summarize, listed, List.forall₂_map_right_iff, List.forall₂_same]
    intro run member entry entered
    exact average_kept_of_adds adds member entered

/-- A run without one of the listed benchmarks, and with a bucket that is not listed, a repeated one
and an average that does not fit: neither of the last three is seen. And a store in which two samples
and a bucket have been added to a benchmark keeps the averages that are summarized. -/
theorem summarize_tells_buckets_untidy :
    let benchmarks := ["vgg16", "vgg19"]
    let untidy : Run :=
      ⟨"a", [⟨"other", .ofSums 7 1⟩, ⟨"vgg16", ⟨50, 2, 3.0⟩⟩, ⟨"vgg16", .ofSums 9 9⟩]⟩
    let tidy : Run := ⟨"a", [⟨"vgg16", .ofSums 50 2⟩]⟩
    let additions : List StoreOperation :=
      [.mention "b", .change "a" "vgg16" (.record 50), .change "a" "vgg16" (.record 25),
        .change "a" "vgg16" (.merge (.ofSums 9 9))]
    summarize ⟨benchmarks, [untidy]⟩ = summarize ⟨benchmarks, [tidy]⟩ ∧
    (summarizeRun untidy benchmarks).benchmarks.map (fun entry => (entry.total, entry.kernels)) =
      [(50, 2), (0, 0)] ∧
    let store := Store.afterAll benchmarks additions
    List.Forall₂ (fun run summary => ∀ entry ∈ summary.benchmarks,
      (run.get? entry.benchmark).map (·.average) = some entry.average)
      store.runs (summarize store) := by
  intro benchmarks untidy tidy additions
  have same : (⟨benchmarks, [untidy]⟩ : Store).SameSeen ⟨benchmarks, [tidy]⟩ := by
    refine ⟨rfl, .cons ⟨rfl, ?_⟩ .nil⟩
    exact .andThen (.unlisted [] _ (by decide))
      (.andThen (.repeated [⟨"vgg16", ⟨50, 2, 3.0⟩⟩] [] ⟨_, List.mem_singleton_self _, rfl⟩)
        (.average [] [] "vgg16" ⟨rfl, rfl⟩))
  have adds : ∀ operation ∈ additions, operation.Adds := by simp [additions, StoreOperation.Adds]
  exact ⟨(summarize_tells_buckets _).2.1 _ same, by decide,
    (summarize_tells_buckets _).2.2 benchmarks additions rfl adds⟩

end Occupancy
