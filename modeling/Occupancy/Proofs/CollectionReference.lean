/-
Module: Occupancy.Proofs.CollectionReference
Purpose: The store of a collection, told bucket by bucket instead of step by step.
Main exports: RunFolder.logAt, RunFolder.logPath_eq_logAt, Trial, Plan.trials, Collector.pool,
  Collector.pooled, Collector.referenceStore, store_of_collectPlan
-/
import Occupancy.Collection
import Occupancy.Proofs.BucketSums
import Occupancy.Proofs.Folds
import Occupancy.Proofs.StoreTable

namespace Occupancy

/-!
A collection goes through the folders and, inside each, through the benchmark list, and changes one
bucket of a half-built store at a time. The folders of several runs may lie between each other, and
so may the logs of several benchmarks. The reference has no store to build: the bucket of a run and
a benchmark merges the logs of this pair alone, and the runs are the distinct names of the folders.
Where a log lies is told here by the bytes of its path, and not by the steps that put it together.

The invariant of both loops is the same equation. Behind any number of folders, and behind any part
of the benchmark list of the next folder, the store is the table of the logs pooled so far.
-/

/-- The bytes of a log that is there and can be read. -/
def LogState.data? : LogState → Option Bytes
  | .present data => some data
  | .absent | .unreadable _ => none

/-- A path with a slash behind it, so that a name can follow. The empty path and one that ends with a
slash need none. -/
def Path.closed (path : Bytes) : Bytes :=
  if path = [] ∨ path.getLast? = some 0x2F then path else path ++ [0x2F]

theorem Path.join_of_absolute (path : Bytes) {next : Bytes} (absolute : next.head? = some 0x2F) :
    Path.join path next = next := by
  rw [Path.join, if_pos (by simp [Path.isAbsolute, Path.slash, absolute])]

/-- To go on by a name is to put it behind the closed path. -/
theorem Path.join_eq_closed_append (path : Bytes) {name : Bytes}
    (relative : name.head? ≠ some 0x2F) : Path.join path name = Path.closed path ++ name := by
  have stays : Path.isAbsolute name = false := by simpa [Path.isAbsolute, Path.slash] using relative
  rw [Path.join, stays, if_neg Bool.false_ne_true, Path.closed]
  by_cases shut : path = [] ∨ path.getLast? = some 0x2F
  · rw [if_pos shut, if_pos (by simpa [Path.slash] using shut)]
  · rw [if_neg shut, if_neg (by simpa [Path.slash] using shut), List.append_assoc]
    rfl

namespace RunFolder

/-- Where the log of a benchmark lies: `<folder>/<benchmark>/<benchmark>.log`. The name of a benchmark
that begins with a slash is a path of its own, and the folder has no part in it. -/
def logAt (folder : RunFolder) (benchmark : String) : Bytes :=
  let name := Text.bytes benchmark
  if name.head? = some 0x2F then name ++ Text.bytes ".log"
  else Path.closed (Path.closed folder.path ++ name) ++ (name ++ Text.bytes ".log")

example : logAt ⟨Path.ofString "in/a-1", "a-1", "a", "1"⟩ "vgg16" =
    Path.ofString "in/a-1/vgg16/vgg16.log" := by decide +kernel

/-- The log lies where a collection looks for it. -/
theorem logPath_eq_logAt (folder : RunFolder) (benchmark : String) :
    folder.logPath benchmark = folder.logAt benchmark := by
  have ending : Path.ofString (benchmark ++ ".log") =
      Text.bytes benchmark ++ Text.bytes ".log" := by
    simp [Path.ofString, Text.bytes, Text.encode]
  rw [logPath, logAt, ending, Path.ofString]
  generalize Text.bytes benchmark = name
  have start : (name ++ Text.bytes ".log").head? = some 0x2F ↔ name.head? = some 0x2F := by
    cases name with
    | nil => decide +kernel
    | cons first rest => rfl
  by_cases absolute : name.head? = some 0x2F
  · rw [if_pos absolute, Path.join_of_absolute _ (start.mpr absolute)]
  · rw [if_neg absolute, Path.join_eq_closed_append _ (fun slashed => absolute (start.mp slashed)),
      Path.join_eq_closed_append _ absolute]

end RunFolder

/-- One folder as a scan sees it: its run, and what the log of each benchmark holds. -/
structure Trial where
  run : String
  log : String → Option Bytes

/-- The trial of a folder. -/
def RunFolder.trial (logs : Bytes → LogState) (folder : RunFolder) : Trial :=
  ⟨folder.runName, fun benchmark => (logs (folder.logAt benchmark)).data?⟩

/-- The trials of a plan, in its order. -/
def Plan.trials (plan : Plan) (logs : Bytes → LogState) : List Trial :=
  plan.folders.map (·.trial logs)

/-- What a trial gives to the bucket of a run and a benchmark: the log of the benchmark, if the
trial is one of the run and has this log, once for each time that the list names the benchmark. -/
def Trial.share (trial : Trial) (benchmarks : List String) (run benchmark : String) : List Bytes :=
  if trial.run = run then
    (trial.log benchmark).toList.flatMap (List.replicate (benchmarks.count benchmark))
  else []

namespace Collector

/-- The logs of a run and a benchmark, in the order in which they are scanned. -/
def pool (c : Collector) (trials : List Trial) (run benchmark : String) : List Bytes :=
  trials.flatMap fun trial => trial.share c.benchmarks run benchmark

/-- Merge the buckets of some logs, in their order. A log whose sums do not fit beside the sums so
far is left out whole. -/
def pooled (c : Collector) (logs : List Bytes) : Bucket :=
  logs.foldl (fun merged log =>
    if merged.Takes (c.scan log).total (c.scan log).kernels then
      .ofSums (merged.total + (c.scan log).total) (merged.kernels + (c.scan log).kernels)
    else merged) .empty

/-- The distinct runs of some trials, in the order in which they first appear, and for each of them
the pooled bucket of every benchmark. -/
def referenceStore (c : Collector) (trials : List Trial) : Store :=
  .tabulate c.benchmarks (trials.map (·.run)).eraseDups fun run benchmark =>
    c.pooled (c.pool trials run benchmark)

theorem pooled_nil (c : Collector) : c.pooled [] = .empty := rfl

theorem pooled_concat (c : Collector) (logs : List Bytes) (log : Bytes) :
    c.pooled (logs ++ [log]) = (c.pooled logs).merge (c.scan log) := by
  rw [Bucket.merge_eq_ite, pooled, List.foldl_append]
  rfl

theorem pooled_eq_foldl_merge (c : Collector) (logs : List Bytes) :
    c.pooled logs = logs.foldl (fun merged log => merged.merge (c.scan log)) .empty := by
  simp only [pooled, Bucket.merge_eq_ite]

theorem pool_concat (c : Collector) (trials : List Trial) (trial : Trial) (run benchmark : String) :
    c.pool (trials ++ [trial]) run benchmark =
      c.pool trials run benchmark ++ trial.share c.benchmarks run benchmark := by
  simp [pool]

/-- A run that no trial belongs to has no logs. -/
theorem pool_eq_nil (c : Collector) {trials : List Trial} {run : String}
    (absent : run ∉ trials.map (·.run)) (benchmark : String) :
    c.pool trials run benchmark = [] := by
  rw [pool, List.flatMap_eq_nil_iff]
  intro trial member
  rw [Trial.share, if_neg]
  rintro rfl
  exact absent (List.mem_map_of_mem member)

end Collector

namespace Trial

theorem share_nil (trial : Trial) (run benchmark : String) : trial.share [] run benchmark = [] := by
  unfold share
  split
  · cases trial.log benchmark <;> rfl
  · rfl

/-- One more entry of the benchmark list gives one more log to one bucket. -/
theorem share_concat (trial : Trial) (benchmarks : List String) (entry run benchmark : String) :
    trial.share (benchmarks ++ [entry]) run benchmark =
      trial.share benchmarks run benchmark ++
        if run = trial.run ∧ benchmark = entry then (trial.log entry).toList else [] := by
  unfold share
  by_cases runHit : trial.run = run
  · by_cases benchmarkHit : benchmark = entry
    · subst runHit benchmarkHit
      simp only [true_and, if_true, List.count_append, List.count_singleton_self]
      cases trial.log benchmark with
      | none => rfl
      | some log => simp [List.replicate_succ']
    · have noCount : List.count benchmark [entry] = 0 := by simp [Ne.symm benchmarkHit]
      simp [runHit, benchmarkHit, List.count_append, noCount]
  · simp [runHit, Ne.symm runHit]

end Trial

namespace Collector

/-- One entry of the benchmark list changes the bucket of its pair, if there is a log. -/
theorem store_of_collectLog {c : Collector} {logs : Bytes → LogState} {folder : RunFolder}
    {collection next : Collection} {benchmark : String}
    (ran : c.collectLog logs folder collection benchmark = .ok next) :
    next.folders = collection.folders ∧
      next.store =
        ((folder.trial logs).log benchmark).elim collection.store fun log =>
          collection.store.update folder.runName benchmark (·.merge (c.scan log)) := by
  rw [collectLog, folder.logPath_eq_logAt benchmark] at ran
  cases state : logs (folder.logAt benchmark) with
  | absent =>
      simp only [state] at ran
      cases ran
      simp [RunFolder.trial, state, LogState.data?]
  | unreadable e =>
      simp only [state] at ran
      cases ran
  | present log =>
      simp only [state] at ran
      cases ran
      simp [RunFolder.trial, state, LogState.data?]

/-- The invariant inside a folder: behind a part of the benchmark list the store is the table of the
logs of the trials before and of this trial's share for that part. -/
theorem store_step_benchmark {c : Collector} {logs : Bytes → LogState} {folder : RunFolder}
    {names : List String} {before : String → String → List Bytes} (nodup : names.Nodup)
    (member : folder.runName ∈ names) (done : List String) (benchmark : String)
    (collection next : Collection)
    (holds : collection.store = .tabulate c.benchmarks names fun run benchmark =>
      c.pooled (before run benchmark ++ (folder.trial logs).share done run benchmark))
    (ran : c.collectLog logs folder collection benchmark = .ok next) :
    next.store = .tabulate c.benchmarks names fun run other =>
      c.pooled (before run other ++ (folder.trial logs).share (done ++ [benchmark]) run other) := by
  rw [(store_of_collectLog ran).2, holds]
  cases logEq : (folder.trial logs).log benchmark with
  | none => simp [Trial.share_concat, logEq]
  | some log =>
      rw [Option.elim_some, Store.update_tabulate _ _ nodup member]
      congr 1
      funext run other
      rw [Trial.share_concat, logEq, ← List.append_assoc]
      by_cases runHit : run = folder.runName
      · subst runHit
        rw [Function.update_self]
        by_cases hit : other = benchmark
        · subst hit
          rw [Function.update_self, if_pos ⟨rfl, rfl⟩, Option.toList_some, pooled_concat]
        · rw [Function.update_of_ne hit, if_neg fun both => hit both.2, List.append_nil]
      · rw [Function.update_of_ne runHit, if_neg fun both => runHit both.1, List.append_nil]

/-- The invariant between folders: the store behind some folders is the reference for them. -/
theorem store_step_folder {c : Collector} {logs : Bytes → LogState} (done : List RunFolder)
    (folder : RunFolder) (collection next : Collection)
    (holds : collection.store = c.referenceStore (done.map (·.trial logs)) ∧
      collection.folders = done.length)
    (ran : c.collectFolder logs collection folder = .ok next) :
    next.store = c.referenceStore ((done ++ [folder]).map (·.trial logs)) ∧
      next.folders = (done ++ [folder]).length := by
  obtain ⟨storeEq, foldersEq⟩ := holds
  let trials := done.map (·.trial logs)
  let names := ((trials ++ [folder.trial logs]).map (·.run)).eraseDups
  have namesEq : (if folder.runName ∈ (trials.map (·.run)).eraseDups then
      (trials.map (·.run)).eraseDups
      else (trials.map (·.run)).eraseDups ++ [folder.runName]) = names := by
    simp only [names, List.map_append, List.map_singleton, eraseDups_concat, List.mem_eraseDups]
    rfl
  have member : folder.runName ∈ names := by
    simp [names, RunFolder.trial]
  have mentioned : collection.store.mention folder.runName =
      .tabulate c.benchmarks names fun run benchmark =>
        c.pooled (c.pool trials run benchmark ++ (folder.trial logs).share [] run benchmark) := by
    rw [storeEq, referenceStore, Store.mention_tabulate, namesEq]
    · simp only [Trial.share_nil, List.append_nil]
      rfl
    · intro fresh
      funext benchmark
      rw [pool_eq_nil c (fun member => fresh (List.mem_eraseDups.mpr member)), pooled_nil]
  let invariant (part : List String) (state : Collection) : Prop :=
    state.folders = done.length + 1 ∧
      state.store = .tabulate c.benchmarks names fun run benchmark =>
        c.pooled (c.pool trials run benchmark ++ (folder.trial logs).share part run benchmark)
  have kept : invariant c.benchmarks next := by
    refine foldlM_invariant invariant ?_ ⟨by simp [foldersEq], mentioned⟩ ran
    intro part benchmark state after held step
    exact ⟨(store_of_collectLog step).1.trans held.1,
      store_step_benchmark (nodup_eraseDups _) member part benchmark state after held.2 step⟩
  obtain ⟨foldersNow, storeNow⟩ := kept
  refine ⟨?_, by simp [foldersNow]⟩
  rw [storeNow, referenceStore, List.map_append, List.map_singleton]
  simp only [pool_concat]
  rfl

/-- The invariant of the outer loop behind all folders. -/
theorem reference_of_folders {c : Collector} {logs : Bytes → LogState} {folders : List RunFolder}
    {collection : Collection}
    (ran : folders.foldlM (c.collectFolder logs) ⟨.new c.benchmarks, [], 0⟩ = .ok collection) :
    collection.store = c.referenceStore (folders.map (·.trial logs)) ∧
      collection.folders = folders.length :=
  foldlM_invariant
    (fun done state => state.store = c.referenceStore (done.map (·.trial logs)) ∧
      state.folders = done.length)
    store_step_folder ⟨rfl, rfl⟩ ran

end Collector

/-- A collection that succeeds gives the reference. The runs are the distinct run names of the
folders in the order in which they first appear. Every run has one bucket for each entry of the
benchmark list, in its order: the first entry of a name has the logs of that run and benchmark
merged in the order of the plan, once for each time that the list names it, less those that do not
fit; later entries of the name are empty. -/
theorem store_of_collectPlan {c : Collector} {logs : Bytes → LogState} {plan : Plan}
    {collection : Collection} (collected : c.collectPlan logs plan = .ok collection) :
    collection.store = c.referenceStore (plan.trials logs) ∧
      collection.folders = plan.folders.length :=
  Collector.reference_of_folders collected

/-- Folders of two runs that lie between each other. -/
def interleavedPlan : Plan :=
  ⟨[.ofFolder (Path.ofString "in/a-1") "a-1", .ofFolder (Path.ofString "in/b-1") "b-1",
    .ofFolder (Path.ofString "in/a-2") "a-2"], []⟩

/-- The log of one benchmark is missing in the last folder, and each other log holds a sample. -/
def interleavedLogs (path : Bytes) : LogState :=
  if path = Path.ofString "in/a-2/vgg16/vgg16.log" then .absent
  else .present (Path.ofString "Final occupancy for function gemm:50\n")

/-- A list that names a benchmark twice, over interleaved folders. The missing log is missed twice. -/
theorem store_of_collectPlan_interleaved :
    let c : Collector := ⟨["vgg16", "vgg19", "vgg16"], standardIgnoredKernels, .standard⟩
    let missing := Path.ofString "in/a-2/vgg16/vgg16.log"
    ∃ collection, c.collectPlan interleavedLogs interleavedPlan = .ok collection ∧
      collection.store = c.referenceStore (interleavedPlan.trials interleavedLogs) ∧
      collection.folders = interleavedPlan.folders.length ∧
      collection.missing.map (·.path) = [missing, missing] := by
  intro c missing
  obtain ⟨collection, collected, missed⟩ : ∃ collection,
      c.collectPlan interleavedLogs interleavedPlan = .ok collection ∧
      collection.missing.map (·.path) = [missing, missing] := ⟨_, rfl, by decide +kernel⟩
  obtain ⟨reference, folders⟩ := store_of_collectPlan collected
  exact ⟨collection, collected, reference, folders, missed⟩

end Occupancy
