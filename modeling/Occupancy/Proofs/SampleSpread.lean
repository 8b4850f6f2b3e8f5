/-
Module: Occupancy.Proofs.SampleSpread
Purpose: A collection depends on which samples were taken and not on how they are spread over lines,
  logs and folders.
Main exports: SameSamples, Relined, Cut, Respread, Store.Agree, collection_of_same_samples
-/
import Occupancy.Proofs.SampleMultiset

namespace Occupancy

/-!
Two collections are compared that have nothing in common but the collector and, for each run and
benchmark, the multiset of samples. Additions that refuse what does not fit are not associative, so
the order does matter in general; where the exact sums fit both stores are the exact ones, and these
are told by the multisets.
-/

/-- For every run and every benchmark of the list the same samples, in any order and spread over any
logs. -/
def SameSamples (c : Collector) (trials others : List Trial) : Prop :=
  ∀ run, ∀ benchmark ∈ c.benchmarks,
    c.samples trials run benchmark = c.samples others run benchmark

theorem SameSamples.symm {c : Collector} {trials others : List Trial}
    (same : SameSamples c trials others) : SameSamples c others trials :=
  fun run benchmark listed => (same run benchmark listed).symm

/-- What can be done to the lines of one log. -/
inductive Relined (c : Collector) : Option Bytes → Option Bytes → Prop where
  | same (log : Option Bytes) : Relined c log log
  /-- The lines come in another order. -/
  | order {log other : Bytes} (lines : (log.splitOn 0x0A).Perm (other.splitOn 0x0A)) :
      Relined c (some log) (some other)
  /-- One more line that holds no sample, or one of a kernel that does not count. -/
  | passed {log other line : Bytes} {before after : List Bytes}
      (lines : log.splitOn 0x0A = before ++ after)
      (more : other.splitOn 0x0A = before ++ line :: after) (nothing : c.value? line = none) :
      Relined c (some log) (some other)

/-- A log cut in two between two lines, or one that goes over whole, with none on the other side. -/
inductive Cut : Option Bytes → Option Bytes → Option Bytes → Prop where
  | behindLineFeed (first second : Bytes) :
      Cut (some (first ++ 0x0A :: second)) (some (first ++ [0x0A])) (some second)
  | aroundLineFeed (first second : Bytes) :
      Cut (some (first ++ 0x0A :: second)) (some first) (some second)
  | toFirst (log : Option Bytes) : Cut log log none
  | toSecond (log : Option Bytes) : Cut log none log

/-- Ways to spread the same samples differently. -/
inductive Respread (c : Collector) : List Trial → List Trial → Prop where
  /-- The folders come in another order. -/
  | folders {trials others : List Trial} (order : trials.Perm others) : Respread c trials others
  /-- Something is done to the lines of the logs of a folder. -/
  | lines {trial other : Trial} (before after : List Trial) (run : other.run = trial.run)
      (logs : ∀ benchmark ∈ c.benchmarks, Relined c (trial.log benchmark) (other.log benchmark)) :
      Respread c (before ++ trial :: after) (before ++ other :: after)
  /-- Logs of a folder are cut in two, and the second parts go to a folder of their own. -/
  | cut {trial first second : Trial} (before after : List Trial) (firstRun : first.run = trial.run)
      (secondRun : second.run = trial.run)
      (logs : ∀ benchmark ∈ c.benchmarks,
        Cut (trial.log benchmark) (first.log benchmark) (second.log benchmark)) :
      Respread c (before ++ trial :: after) (before ++ first :: second :: after)
  /-- What has been put in is taken out, and what has been cut is joined. -/
  | back {trials others : List Trial} (spread : Respread c trials others) : Respread c others trials
  | andThen {trials middle others : List Trial} (first : Respread c trials middle)
      (second : Respread c middle others) : Respread c trials others

namespace Trial

variable {c : Collector}

/-- Doing something to the lines of a log leaves the samples of the trial alone. -/
theorem samples_relined {trial other : Trial} (sameRun : other.run = trial.run)
    {benchmark : String} (relined : Relined c (trial.log benchmark) (other.log benchmark))
    (run : String) : trial.samples c run benchmark = other.samples c run benchmark := by
  unfold samples
  rw [sameRun]
  generalize trial.log benchmark = before at relined
  generalize other.log benchmark = after at relined
  congr 1
  cases relined with
  | same => rfl
  | order lines => exact Multiset.coe_eq_coe.mpr (lines.filterMap _)
  | passed lines more nothing =>
      simp only [Option.elim_some, Collector.values, lines, more, List.filterMap_append,
        List.filterMap_cons_none nothing]

/-- Between them the two parts of a trial have its samples. -/
theorem samples_cut {trial first second : Trial} (firstRun : first.run = trial.run)
    (secondRun : second.run = trial.run) {benchmark : String}
    (cut : Cut (trial.log benchmark) (first.log benchmark) (second.log benchmark)) (run : String) :
    trial.samples c run benchmark =
      first.samples c run benchmark + second.samples c run benchmark := by
  unfold samples
  rw [firstRun, secondRun]
  generalize trial.log benchmark = whole at cut
  generalize first.log benchmark = left at cut
  generalize second.log benchmark = right at cut
  split
  · cases cut with
    | behindLineFeed left right =>
        simp [Collector.values_append_lineFeed_append, Collector.values_nil]
    | aroundLineFeed left right => simp [Collector.values_append_lineFeed_append]
    | toFirst => simp
    | toSecond => simp
  · rfl

end Trial

/-- Spreading samples differently leaves the samples of every run and benchmark alone. -/
theorem Respread.same_samples {c : Collector} {trials others : List Trial}
    (spread : Respread c trials others) : SameSamples c trials others := by
  intro run benchmark listed
  induction spread with
  | folders order => exact (order.map _).sum_eq
  | lines before after sameRun logs =>
      rw [Collector.samples_append, Collector.samples_append, Collector.samples_cons,
        Collector.samples_cons, Trial.samples_relined sameRun (logs benchmark listed)]
  | cut before after firstRun secondRun logs =>
      rw [Collector.samples_append, Collector.samples_append, Collector.samples_cons,
        Collector.samples_cons, Collector.samples_cons,
        Trial.samples_cut firstRun secondRun (logs benchmark listed), add_assoc]
  | back _ inductionHypothesis => exact inductionHypothesis.symm
  | andThen _ _ firstEq secondEq => exact firstEq.trans secondEq

/-- Two stores agree: runs that both have are equal bucket by bucket, and runs that only one has are
empty. -/
structure Store.Agree (first second : Store) : Prop where
  shared : ∀ run ∈ first.runs, ∀ other ∈ second.runs, run.name = other.name →
    run.buckets = other.buckets
  onlyFirst : ∀ run ∈ first.runs, (∀ other ∈ second.runs, other.name ≠ run.name) →
    ∀ slot ∈ run.buckets, slot.bucket = .empty
  onlySecond : ∀ other ∈ second.runs, (∀ run ∈ first.runs, run.name ≠ other.name) →
    ∀ slot ∈ other.buckets, slot.bucket = .empty

section Comparison

variable {c : Collector} {logs₁ logs₂ : Bytes → LogState} {plan₁ plan₂ : Plan}
  {collection₁ collection₂ : Collection}

theorem Collector.Fits.of_same {trials others : List Trial} (same : SameSamples c trials others)
    {run benchmark : String} (listed : benchmark ∈ c.benchmarks)
    (fits : c.Fits trials run benchmark) : c.Fits others run benchmark := by
  rwa [Collector.Fits, ← same run benchmark listed]

theorem Collector.exactBucket_of_same {trials others : List Trial}
    (same : SameSamples c trials others) (run : String) {benchmark : String}
    (listed : benchmark ∈ c.benchmarks) :
    c.exactBucket trials run benchmark = c.exactBucket others run benchmark := by
  rw [Collector.exactBucket, same run benchmark listed, Collector.exactBucket]

/-- A run that another collection of the same samples does not have is empty. -/
theorem empty_of_absent (collected₁ : c.collectPlan logs₁ plan₁ = .ok collection₁)
    (collected₂ : c.collectPlan logs₂ plan₂ = .ok collection₂)
    (fits : ∀ run, ∀ benchmark ∈ c.benchmarks, c.Fits (plan₁.trials logs₁) run benchmark)
    (same : SameSamples c (plan₁.trials logs₁) (plan₂.trials logs₂))
    {run : Run} (member : run ∈ collection₁.store.runs)
    (absent : ∀ other ∈ collection₂.store.runs, other.name ≠ run.name) {slot : BenchmarkBucket}
    (slotMember : slot ∈ run.buckets) : slot.bucket = .empty := by
  have unnamed : run.name ∉ (plan₂.trials logs₂).map (·.run) := by
    rw [← exists_run_iff_of_collectPlan collected₂]
    rintro ⟨other, otherMember, otherName⟩
    exact absent other otherMember otherName
  rw [buckets_of_collectPlan collected₁ member (fits run.name)] at slotMember
  obtain ⟨listed, exact | blank⟩ := bucket_eq_of_mem_slots slotMember
  · rw [exact, Collector.exactBucket_of_same same run.name listed, Collector.exactBucket,
      Collector.samples_eq_zero c unnamed]
    rfl
  · exact blank

/-- A collection depends on the samples alone, as long as their exact sums fit, each taken once for
every entry of its benchmark in the list: two collections of the same samples agree. So nothing is
changed by another order of the folders or of the lines of a log, by lines that hold no sample or
one that does not count, and by cutting a log between two lines or joining two logs. -/
theorem collection_of_same_samples (collected₁ : c.collectPlan logs₁ plan₁ = .ok collection₁)
    (collected₂ : c.collectPlan logs₂ plan₂ = .ok collection₂)
    (fits : ∀ run, ∀ benchmark ∈ c.benchmarks, c.Fits (plan₁.trials logs₁) run benchmark) :
    (SameSamples c (plan₁.trials logs₁) (plan₂.trials logs₂) →
      collection₁.store.Agree collection₂.store) ∧
    (Respread c (plan₁.trials logs₁) (plan₂.trials logs₂) →
      collection₁.store.Agree collection₂.store) := by
  have agree (same : SameSamples c (plan₁.trials logs₁) (plan₂.trials logs₂)) :
      collection₁.store.Agree collection₂.store := by
    have fits₂ : ∀ run, ∀ benchmark ∈ c.benchmarks, c.Fits (plan₂.trials logs₂) run benchmark :=
      fun run benchmark listed => (fits run benchmark listed).of_same same listed
    refine ⟨?_, ?_, ?_⟩
    · intro run member other otherMember sameName
      rw [buckets_of_collectPlan collected₁ member (fits run.name),
        buckets_of_collectPlan collected₂ otherMember (fits₂ other.name), sameName]
      exact slots_congr fun benchmark listed =>
        Collector.exactBucket_of_same same other.name listed
    · intro run member absent slot slotMember
      exact empty_of_absent collected₁ collected₂ fits same member absent slotMember
    · intro other member absent slot slotMember
      exact empty_of_absent collected₂ collected₁ fits₂ same.symm member absent slotMember
  exact ⟨agree, fun spread => agree spread.same_samples⟩

end Comparison

/-- A log that is cut in two, the second part going to a folder that comes first. -/
theorem collection_of_same_samples_cut :
    let c : Collector := ⟨["vgg16", "vgg16"], standardIgnoredKernels, .standard⟩
    let gemm : Bytes := Path.ofString "Final occupancy for function gemm:50"
    let relu : Bytes := Path.ofString "Final occupancy for function relu:25"
    let whole : Plan := ⟨[.ofFolder [0x61] "a-1"], []⟩
    let parts : Plan := ⟨[.ofFolder [0x62] "a-2", .ofFolder [0x61] "a-1"], []⟩
    let wholeLogs : Bytes → LogState := fun _ => .present (gemm ++ 0x0A :: relu)
    let partLogs : Bytes → LogState := fun path =>
      if path = RunFolder.logPath (.ofFolder [0x61] "a-1") "vgg16" then .present (gemm ++ [0x0A])
      else .present relu
    ∃ first second, c.collectPlan wholeLogs whole = .ok first ∧
      c.collectPlan partLogs parts = .ok second ∧
      (∀ run, ∀ benchmark ∈ c.benchmarks, c.Fits (whole.trials wholeLogs) run benchmark) ∧
      first.store.Agree second.store := by
  intro c gemm relu whole parts wholeLogs partLogs
  have fits : ∀ run, ∀ benchmark ∈ c.benchmarks,
      c.Fits (whole.trials wholeLogs) run benchmark := by
    intro run benchmark listed
    have known : benchmark = "vgg16" := by simpa [c] using listed
    subst known
    by_cases named : run = "a"
    · subst named
      exact ⟨by decide +kernel, by decide +kernel⟩
    · have runs : (whole.trials wholeLogs).map (·.run) = ["a"] := by decide +kernel
      have absent : run ∉ (whole.trials wholeLogs).map (·.run) := by
        rwa [runs, List.mem_singleton]
      simp [Collector.Fits, Collector.samples_eq_zero c absent]
  have spread : Respread c (whole.trials wholeLogs) (parts.trials partLogs) := by
    let first := RunFolder.trial partLogs (.ofFolder [0x61] "a-1")
    let second := RunFolder.trial partLogs (.ofFolder [0x62] "a-2")
    have cut : Respread c (whole.trials wholeLogs) [first, second] := by
      refine .cut [] [] (by decide) (by decide) ?_
      intro benchmark listed
      have known : benchmark = "vgg16" := by simpa [c] using listed
      subst known
      exact .behindLineFeed gemm relu
    exact .andThen cut (.folders (List.Perm.swap second first []))
  exact ⟨_, _, rfl, rfl, fits, (collection_of_same_samples rfl rfl fits).2 spread⟩
end Occupancy
