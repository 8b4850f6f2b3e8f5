/-
Module: Occupancy.Proofs.CollectionReads
Purpose: What a collection reads of a tree: the plan, and the logs that the plan asks for.
Main exports: FileTree.SameLog, Collector.collectPlan_congr, Collector.exists_collectPlan_eq_ok,
  Collector.collect_same_of_reads
-/
import Occupancy.Proofs.LogAccounting
import Occupancy.Proofs.PlanEntries

namespace Occupancy

/-!
A collection looks at a tree in two places only. The plan depends on the entries of the input
directory, and the scan on the states of the logs at the paths of the plan. Two trees with the same
folders and the same states there have the same collection, whatever else they hold.

In a tree a regular file can always be read, so a plan always has a collection.
-/

namespace FileTree

variable {tree other : FileTree} {here : Location} {path : Bytes}

/-- A regular file in a tree can be read. -/
theorem logState_ne_unreadable (tree : FileTree) (here : Location) (path : Bytes)
    (fault : SystemError) : tree.logState here path ≠ .unreadable fault := by
  rw [logState, isFile, read]
  cases tree.find here path with
  | error fault => simp
  | ok node => cases node <;> simp [pure, Except.pure, bind, Except.bind]

theorem logState_congr (same : other.find here path = tree.find here path) :
    other.logState here path = tree.logState here path := by
  rw [logState, logState, isFile, isFile, read, read, same]

/-- A path leads to a regular file in neither of two trees, or in both to one with the same text. -/
inductive SameLog (tree other : FileTree) (here : Location) (path : Bytes) : Prop where
  | neither (absent : ∀ contents, tree.find here path ≠ .ok (.file contents))
      (alsoAbsent : ∀ contents, other.find here path ≠ .ok (.file contents)) :
      SameLog tree other here path
  | both {contents otherContents : Contents} (found : tree.find here path = .ok (.file contents))
      (alsoFound : other.find here path = .ok (.file otherContents))
      (same : otherContents.text = contents.text) : SameLog tree other here path

theorem SameLog.logState_eq (sameLog : tree.SameLog other here path) :
    other.logState here path = tree.logState here path := by
  cases sameLog with
  | neither absent alsoAbsent =>
      rw [logState_eq_absent_iff.mpr absent, logState_eq_absent_iff.mpr alsoAbsent]
  | both found alsoFound same =>
      rw [logState_eq_present_iff.mpr ⟨_, found, rfl⟩,
        logState_eq_present_iff.mpr ⟨_, alsoFound, same⟩]

end FileTree

namespace Collector

variable {c : Collector}

/-- A collection depends on the logs at the paths of its plan only. -/
theorem collectPlan_congr {plan : Plan} {logs otherLogs : Bytes → LogState}
    (same : ∀ visit ∈ plan.visits c.benchmarks, otherLogs visit.path = logs visit.path) :
    c.collectPlan otherLogs plan = c.collectPlan logs plan := by
  have faults : (plan.visits c.benchmarks).findSome? (Visit.fault? otherLogs) =
      (plan.visits c.benchmarks).findSome? (Visit.fault? logs) := by
    rw [← List.head?_filterMap, ← List.head?_filterMap]
    congr 1
    apply List.filterMap_congr
    intro visit member
    rw [Visit.fault?, Visit.fault?, same visit member]
  have notes : (plan.visits c.benchmarks).filterMap (Visit.note? otherLogs) =
      (plan.visits c.benchmarks).filterMap (Visit.note? logs) := by
    apply List.filterMap_congr
    intro visit member
    simp only [Visit.note?, Option.guard, same visit member]
  have operations : c.operations otherLogs plan = c.operations logs plan := by
    apply List.flatMap_congr
    intro folder member
    rw [folderOperations, folderOperations]
    congr 1
    apply List.filterMap_congr
    intro visit alsoMember
    rw [Visit.operation?, Visit.operation?,
      same visit (List.mem_flatMap.mpr ⟨folder, member, alsoMember⟩)]
  rw [c.collectPlan_eq_orFail, c.collectPlan_eq_orFail, faults, notes, operations]

/-- The folders that a plan leaves out do not matter. -/
theorem collectPlan_of_folders_eq {plan other : Plan} (logs : Bytes → LogState)
    (same : other.folders = plan.folders) :
    c.collectPlan logs other = c.collectPlan logs plan := by
  rw [collectPlan, collectPlan, same]

variable {tree other : FileTree} {here : Location} {input : Bytes} {exclude : List String}

/-- A plan of a tree can be collected. -/
theorem exists_collectPlan_eq_ok (c : Collector) (tree : FileTree) (here : Location) (plan : Plan) :
    ∃ collection, c.collectPlan (tree.logState here) plan = .ok collection := by
  cases outcome : c.collectPlan (tree.logState here) plan with
  | ok collection => exact ⟨collection, rfl⟩
  | error error =>
      obtain ⟨visit, -, fault, unreadable⟩ := exists_collectPlan_eq_error_iff.mp ⟨error, outcome⟩
      exact absurd unreadable (tree.logState_ne_unreadable here visit.path fault)

theorem collect_eq_of_ofTree {plan : Plan}
    (planned : Plan.ofTree tree here input exclude = .ok plan) :
    c.collect tree here input exclude = c.collectPlan (tree.logState here) plan := by
  rw [collect, planned]
  rfl

theorem collect_eq_error_of_ofTree {error : PlanError}
    (failed : Plan.ofTree tree here input exclude = .error error) :
    c.collect tree here input exclude = .error (.plan error) := by
  rw [collect, failed]
  rfl

/-- Two trees have the same collection if they have plans with the same folders, and the same logs
where these folders are to have them. -/
theorem collect_same_of_reads {plan otherPlan : Plan} {otherExclude : List String}
    (planned : Plan.ofTree tree here input exclude = .ok plan)
    (otherPlanned : Plan.ofTree other here input otherExclude = .ok otherPlan)
    (folders : otherPlan.folders = plan.folders)
    (logs : ∀ visit ∈ plan.visits c.benchmarks,
      other.logState here visit.path = tree.logState here visit.path) :
    ∃ collection, c.collect tree here input exclude = .ok collection ∧
      c.collect other here input otherExclude = .ok collection := by
  obtain ⟨collection, collected⟩ := c.exists_collectPlan_eq_ok tree here plan
  refine ⟨collection, (collect_eq_of_ofTree planned).trans collected, ?_⟩
  rw [collect_eq_of_ofTree otherPlanned, collectPlan_of_folders_eq _ folders,
    collectPlan_congr logs, collected]

end Collector
end Occupancy
