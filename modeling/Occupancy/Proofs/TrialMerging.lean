/-
Module: Occupancy.Proofs.TrialMerging
Purpose: Which folders a collection takes for trials of one run.
Main exports: Plan.Split, Plan.split_ofTree, Plan.siblings, Collector.logsOf, Store.runIndex,
  Store.Sorts, sorts_of_collectPlan, folderName_tells_run
-/
import Occupancy.Proofs.FolderName
import Occupancy.Proofs.PlanText

namespace Occupancy

/-!
A folder is a trial of the run that its name tells, and nothing else of the folder has a say: neither
where it is nor what it holds. The names are cut one by one, but a collection only compares the run
names that come of it. So whether two folders are trials of one run is a relation of their names,
told without the cutting: to agree up to the last dash. The folders that agree with one of them are
all the trials of its run, and the logs of these folders are what the buckets of the run are made of.
-/

/-- Every folder of a plan has the parts of its name. -/
def Plan.Split (plan : Plan) : Prop :=
  ∀ run ∈ plan.folders, run = .ofFolder run.path run.folder

/-- The folders of a plan whose names agree with a name up to the last dash, in the order of the
plan. -/
def Plan.siblings (plan : Plan) (folder : String) : List RunFolder :=
  plan.folders.filter fun run => AgreeToLastDash run.folder folder

/-- The logs of a benchmark that some folders have, in the order of the folders, each of them once for
each time that the list names the benchmark. -/
def Collector.logsOf (c : Collector) (logs : Bytes → LogState) (folders : List RunFolder)
    (benchmark : String) : List Bytes :=
  folders.flatMap fun run =>
    (logs (run.logAt benchmark)).data?.toList.flatMap
      (List.replicate (c.benchmarks.count benchmark))

/-- Where the run of a folder stands among the runs of a store. -/
def Store.runIndex (store : Store) (folder : RunFolder) : Nat := store.names.idxOf folder.runName

/-- A store has the folders of a plan sorted into its runs by what their names have in front of the
last dash. -/
structure Store.Sorts (store : Store) (c : Collector) (logs : Bytes → LogState) (plan : Plan) :
    Prop where
  /-- Two folders are merged into one run if their names agree up to the last dash, and only then. -/
  together : ∀ first ∈ plan.folders, ∀ second ∈ plan.folders,
    (store.runIndex first = store.runIndex second ↔ AgreeToLastDash first.folder second.folder)
  /-- Every run is that of a folder. -/
  inhabited : ∀ index < store.runs.length, ∃ folder ∈ plan.folders, store.runIndex folder = index
  /-- The run of a folder has the logs of all folders merged that agree with it, and no others. -/
  merged : ∀ folder ∈ plan.folders,
    store.runs[store.runIndex folder]? =
      some (.tabulate c.benchmarks folder.runName fun benchmark =>
        c.pooled (c.logsOf logs (plan.siblings folder.folder) benchmark))

namespace Plan

variable {plan : Plan}

/-- The plan of a tree has folders of this kind. -/
theorem split_ofTree {tree : FileTree} {here : Location} {input : Bytes} {exclude : List String}
    (planned : ofTree tree here input exclude = .ok plan) : plan.Split := by
  rcases ofTree_cases tree here input with ⟨fault, failed⟩ | ⟨root, located, noDirectory⟩ |
    ⟨root, inside⟩
  · rw [ofTree_of_locate_error failed] at planned
    cases planned
  · rw [ofTree_of_no_directory located noDirectory] at planned
    cases planned
  · rw [ofTree_of_directory inside, orFail_eq_ok_iff] at planned
    obtain ⟨-, rfl⟩ := planned
    intro run member
    obtain ⟨name, -, rfl⟩ := List.mem_map.mp member
    rw [RunFolder.ofEntry, RunFolder.path_ofFolder, RunFolder.folder_ofFolder]

theorem Split.runName_eq_iff (split : plan.Split) {first second : RunFolder}
    (isFirst : first ∈ plan.folders) (isSecond : second ∈ plan.folders) :
    first.runName = second.runName ↔ AgreeToLastDash first.folder second.folder := by
  rw [split first isFirst, split second isSecond, RunFolder.folder_ofFolder,
    RunFolder.folder_ofFolder]
  exact RunFolder.runName_eq_iff_agree _ _

/-- The folders of a run are those that agree with one of them. -/
theorem Split.foldersOf_eq_siblings (split : plan.Split) {folder : RunFolder}
    (member : folder ∈ plan.folders) :
    plan.foldersOf folder.runName = plan.siblings folder.folder := by
  rw [foldersOf, siblings]
  apply List.filter_congr
  intro run isRun
  rw [Bool.eq_iff_iff, beq_iff_eq, decide_eq_true_iff]
  exact split.runName_eq_iff isRun member

end Plan

/-- What is pooled for a run are the logs of its folders. -/
theorem Collector.pool_trials (c : Collector) (logs : Bytes → LogState) (plan : Plan)
    (name benchmark : String) :
    c.pool (plan.trials logs) name benchmark = c.logsOf logs (plan.foldersOf name) benchmark := by
  rw [pool, Plan.trials, logsOf, Plan.foldersOf]
  induction plan.folders with
  | nil => rfl
  | cons run rest inductionHypothesis =>
      have share : (run.trial logs).share c.benchmarks name benchmark =
          if run.runName = name then
            (logs (run.logAt benchmark)).data?.toList.flatMap
              (List.replicate (c.benchmarks.count benchmark))
          else [] := rfl
      rw [List.map_cons, List.flatMap_cons, inductionHypothesis, share]
      by_cases hit : run.runName = name
      · rw [if_pos hit, List.filter_cons_of_pos (by simpa using hit), List.flatMap_cons]
      · rw [if_neg hit, List.filter_cons_of_neg (by simpa using hit), List.nil_append]

section Collecting

variable {c : Collector} {logs : Bytes → LogState} {plan : Plan} {collection : Collection}

/-- The runs of a collection are those of its plan, each with the logs of its folders merged. -/
theorem runs_of_collectPlan (collected : c.collectPlan logs plan = .ok collection) :
    collection.store.runs = plan.runNames.map fun name =>
      .tabulate c.benchmarks name fun benchmark =>
        c.pooled (c.logsOf logs (plan.foldersOf name) benchmark) := by
  have reference : collection.store = c.referenceStore (plan.trials logs) :=
    (Collector.reference_of_folders collected).1
  rw [reference, Collector.referenceStore, plan.runs_trials, Store.tabulate]
  simp only [Collector.pool_trials]

theorem runIndex_of_collectPlan (collected : c.collectPlan logs plan = .ok collection)
    (folder : RunFolder) :
    collection.store.runIndex folder = plan.runNames.idxOf folder.runName := by
  rw [Store.runIndex, (Collector.names_of_collectPlan collected).1]

/-- A collection sorts the folders of its plan by what their names have in front of the last dash. -/
theorem sorts_of_collectPlan (split : plan.Split)
    (collected : c.collectPlan logs plan = .ok collection) :
    collection.store.Sorts c logs plan where
  together := by
    intro first isFirst second isSecond
    have named : first.runName ∈ plan.runNames := plan.mem_runNames_iff.mpr ⟨first, isFirst, rfl⟩
    rw [runIndex_of_collectPlan collected, runIndex_of_collectPlan collected, List.idxOf_inj named]
    exact split.runName_eq_iff isFirst isSecond
  inhabited := by
    intro index bound
    rw [runs_of_collectPlan collected, List.length_map] at bound
    obtain ⟨folder, member, named⟩ := plan.mem_runNames_iff.mp (List.getElem_mem bound)
    refine ⟨folder, member, ?_⟩
    rw [runIndex_of_collectPlan collected, named]
    exact plan.nodup_runNames.idxOf_getElem index bound
  merged := by
    intro folder member
    have named : folder.runName ∈ plan.runNames := plan.mem_runNames_iff.mpr ⟨folder, member, rfl⟩
    rw [runIndex_of_collectPlan collected, runs_of_collectPlan collected, List.getElem?_map,
      List.getElem?_idxOf named, Option.map_some, split.foldersOf_eq_siblings member]

end Collecting

/-- The name of a folder is split without a loss. If it has a dash, the run name and the run number
with a dash between them are the name again and the number has no dash, which holds of no other two
texts; if not, the run name is empty and the number is the whole name. Different names have the same
parts if and only if one of them has no dash and the other is this one with a dash in front. The
folders of a plan, which are made from their names, are merged into one run if the names agree up to
the last dash and only then, where a dash that is missing counts as an empty run name: every run of a
collection has the logs of all folders merged that agree with one of them, and no others. -/
theorem folderName_tells_run :
    (∀ (path : Bytes) (folder : String),
      let run := RunFolder.ofFolder path folder
      ('-' ∈ folder.toList →
        run.runName ++ "-" ++ run.runNumber = folder ∧ '-' ∉ run.runNumber.toList ∧
          ∀ name number : String, name ++ "-" ++ number = folder → '-' ∉ number.toList →
            name = run.runName ∧ number = run.runNumber) ∧
      ('-' ∉ folder.toList → run.runName = "" ∧ run.runNumber = folder)) ∧
    (∀ (path other : Bytes) (first second : String), first ≠ second →
      (RunFolder.SameParts (.ofFolder path first) (.ofFolder other second) ↔
        (first = "-" ++ second ∧ '-' ∉ second.toList) ∨
          (second = "-" ++ first ∧ '-' ∉ first.toList))) ∧
    (∀ (tree : FileTree) (here : Location) (input : Bytes) (exclude : List String) (plan : Plan),
      Plan.ofTree tree here input exclude = .ok plan → plan.Split) ∧
    ∀ (c : Collector) (logs : Bytes → LogState) (plan : Plan) (collection : Collection),
      plan.Split → c.collectPlan logs plan = .ok collection →
      collection.store.Sorts c logs plan := by
  refine ⟨?_, fun path other _ _ => RunFolder.sameParts_iff path other,
    fun _ _ _ _ _ => Plan.split_ofTree, fun _ _ _ _ => sorts_of_collectPlan⟩
  intro path folder run
  have parts : Parted folder run.runName run.runNumber := RunFolder.parted_ofFolder path folder
  refine ⟨fun dash => ⟨parts.eq_of_dash dash, parts.dashless_number, ?_⟩, parts.eq_of_dashless⟩
  rintro name number rfl dashless
  obtain ⟨sameName, sameNumber⟩ := RunFolder.ofFolder_of_parted (.dashed dashless) path
  exact ⟨sameName.symm, sameNumber.symm⟩

/-- A tree whose folders are two trials of the run without a name, one of them with a dash in front of
its number, and one trial of a run that has a dash in its name. -/
def dashedTree : FileTree :=
  ⟨[([Path.ofString "in"], .directory),
    ([Path.ofString "in", Path.ofString "-1"], .directory),
    ([Path.ofString "in", Path.ofString "-1", Path.ofString "vgg16"], .directory),
    ([Path.ofString "in", Path.ofString "-1", Path.ofString "vgg16", Path.ofString "vgg16.log"],
      .file (.bytes (Path.ofString "Final occupancy for function gemm:50\n"))),
    ([Path.ofString "in", Path.ofString "1"], .directory),
    ([Path.ofString "in", Path.ofString "a-b-1"], .directory)]⟩

set_option maxRecDepth 10000 in
/-- The first two folders are merged into one run, and cannot be told from each other by their parts.
The third one is not, although its number is the same. -/
theorem folderName_tells_run_dashedTree :
    let first := RunFolder.ofFolder (Path.ofString "in/-1") "-1"
    let second := RunFolder.ofFolder (Path.ofString "in/1") "1"
    let third := RunFolder.ofFolder (Path.ofString "in/a-b-1") "a-b-1"
    let plan : Plan := ⟨[first, second, third], []⟩
    let c : Collector := ⟨["vgg16"], standardIgnoredKernels, .standard⟩
    third.runName ++ "-" ++ third.runNumber = "a-b-1" ∧ '-' ∉ third.runNumber.toList ∧
      ("a-b" = third.runName ∧ "1" = third.runNumber) ∧
      (second.runName = "" ∧ second.runNumber = "1") ∧
      RunFolder.SameParts first second ∧
      plan.Split ∧
      ∃ collection, c.collectPlan (dashedTree.logState []) plan = .ok collection ∧
        collection.store.Sorts c (dashedTree.logState []) plan ∧
        collection.store.runIndex first = collection.store.runIndex second ∧
        collection.store.runIndex first ≠ collection.store.runIndex third := by
  intro first second third plan c
  obtain ⟨lossless, collides, ofTree, sorts⟩ := folderName_tells_run
  obtain ⟨joined, dashless, unique⟩ := (lossless (Path.ofString "in/a-b-1") "a-b-1").1 (by decide)
  have split : plan.Split := by
    refine ofTree dashedTree [] (Path.ofString "in") [] plan ?_
    cbv
  have sorted := sorts c (dashedTree.logState []) plan _ split rfl
  refine ⟨joined, dashless, unique "a-b" "1" rfl (by decide),
    (lossless (Path.ofString "in/1") "1").2 (by decide),
    (collides _ _ "-1" "1" (by decide)).mpr (Or.inl (by decide)), split, _, rfl, sorted, ?_, ?_⟩
  · exact (sorted.together first (by simp [plan]) second (by simp [plan])).mpr (by decide)
  · rw [ne_eq, sorted.together first (by simp [plan]) third (by simp [plan])]
    decide

end Occupancy
