/-
Module: Occupancy.Proofs.LogAccounting
Purpose: Every log that a plan asks for is scanned, noted as missing, or the end of the collection.
Main exports: Visit, Plan.visits, Collector.operations, Collection.extend,
  Collector.collectPlan_eq_orFail, collectPlan_accounts
-/
import Occupancy.Proofs.CollectionReference
import Occupancy.Proofs.StoreHistory

namespace Occupancy

/-!
A collection asks for one log for each folder of the plan and each entry of the benchmark list. What
is there has one of three outcomes: the log is scanned into the store, it is noted as missing, or it
ends the collection. Which of them it is does not depend on what has been collected so far. The two
loops, which return from inside, are therefore two loops that cannot fail, unless some log is
unreadable (`foldlM_eq_orFail`), and each turn of these only puts something at the end of three
accounts: the operations on the store, the missing logs, and the number of folders.
-/

namespace LogState

/-- Nothing that is a file stands at the path. -/
@[simp] def isAbsent : LogState → Bool
  | absent => true
  | unreadable _ | present _ => false

/-- Why a log that is there cannot be read. -/
@[simp] def fault? : LogState → Option SystemError
  | unreadable fault => some fault
  | absent | present _ => none

/-- Of the logs that can be read, the missing ones are those without data. -/
theorem isAbsent_eq_not_isSome {state : LogState} (readable : ∀ fault, state ≠ .unreadable fault) :
    state.isAbsent = !state.data?.isSome := by
  cases state with
  | absent => rfl
  | unreadable fault => exact absurd rfl (readable fault)
  | present _ => rfl

end LogState

/-- One look at a log: the folder, and the entry of the benchmark list. -/
structure Visit where
  folder : RunFolder
  benchmark : String

namespace Visit

/-- Where the log is looked for. -/
def path (visit : Visit) : Bytes := visit.folder.logAt visit.benchmark

/-- The note that the log is missing. -/
def note (visit : Visit) : MissingLog :=
  ⟨visit.folder.runName, visit.folder.runNumber, visit.benchmark, visit.path⟩

/-- The note, if the log is missing. -/
def note? (logs : Bytes → LogState) (visit : Visit) : Option MissingLog :=
  (Option.guard (fun visit => (logs (path visit)).isAbsent) visit).map note

/-- The error that ends the collection, if the log cannot be read. -/
def fault? (logs : Bytes → LogState) (visit : Visit) : Option CollectError :=
  (logs visit.path).fault?.map (.log visit.path)

/-- What the log does to the store, if it is there and can be read. -/
def operation? (c : Collector) (logs : Bytes → LogState) (visit : Visit) : Option StoreOperation :=
  (logs visit.path).data?.map fun data =>
    .change visit.folder.runName visit.benchmark (.merge (c.scan data))

theorem fault?_eq_some_iff {logs : Bytes → LogState} {visit : Visit} {error : CollectError} :
    visit.fault? logs = some error ↔
      ∃ fault, logs visit.path = .unreadable fault ∧ error = .log visit.path fault := by
  rw [fault?]
  cases logs visit.path <;> simp [eq_comm]

theorem fault?_eq_none_iff {logs : Bytes → LogState} {visit : Visit} :
    visit.fault? logs = none ↔ ∀ fault, logs visit.path ≠ .unreadable fault := by
  rw [fault?]
  cases logs visit.path <;> simp

end Visit

/-- The looks at the logs of a folder, in the order of the benchmark list. -/
def RunFolder.visits (benchmarks : List String) (folder : RunFolder) : List Visit :=
  benchmarks.map (⟨folder, ·⟩)

/-- The looks at the logs of a plan, folder by folder. -/
def Plan.visits (plan : Plan) (benchmarks : List String) : List Visit :=
  plan.folders.flatMap (·.visits benchmarks)

theorem Plan.length_visits (plan : Plan) (benchmarks : List String) :
    (plan.visits benchmarks).length = plan.folders.length * benchmarks.length := by
  simp [Plan.visits, List.length_flatMap, RunFolder.visits]

namespace Collector

/-- What a folder does to the store: its run is mentioned, and every log that is there is merged
in. -/
def folderOperations (c : Collector) (logs : Bytes → LogState) (folder : RunFolder) :
    List StoreOperation :=
  .mention folder.runName :: (folder.visits c.benchmarks).filterMap (Visit.operation? c logs)

/-- What a plan does to the store, folder by folder. -/
def operations (c : Collector) (logs : Bytes → LogState) (plan : Plan) : List StoreOperation :=
  plan.folders.flatMap (c.folderOperations logs)

end Collector

namespace Collection

/-- A collection with something put at the end of each account. -/
def extend (collection : Collection) (operations : List StoreOperation) (missing : List MissingLog)
    (folders : Nat) : Collection :=
  ⟨operations.foldl StoreOperation.apply collection.store, collection.missing ++ missing,
    collection.folders + folders⟩

theorem extend_extend (collection : Collection) (operations later : List StoreOperation)
    (missing missingLater : List MissingLog) (folders foldersLater : Nat) :
    (collection.extend operations missing folders).extend later missingLater foldersLater =
      collection.extend (operations ++ later) (missing ++ missingLater)
        (folders + foldersLater) := by
  simp only [extend, List.foldl_append, List.append_assoc, Nat.add_assoc]

/-- A loop that extends the accounts extends them by all its turns together. -/
theorem foldl_extend {α : Type} (operations : α → List StoreOperation)
    (missing : α → List MissingLog) (folders : α → Nat) (items : List α)
    (collection : Collection) :
    items.foldl (fun collection item =>
        collection.extend (operations item) (missing item) (folders item)) collection =
      collection.extend (items.flatMap operations) (items.flatMap missing)
        (items.map folders).sum := by
  induction items generalizing collection with
  | nil => simp [extend]
  | cons item rest inductionHypothesis =>
      rw [List.foldl_cons, inductionHypothesis, extend_extend, List.flatMap_cons, List.flatMap_cons,
        List.map_cons, List.sum_cons]

end Collection

namespace Collector

/-- One look at a log: its outcome, and the one account that it goes to. -/
theorem collectLog_eq_orFail (c : Collector) (logs : Bytes → LogState) (folder : RunFolder)
    (collection : Collection) (benchmark : String) :
    c.collectLog logs folder collection benchmark =
      orFail (Visit.fault? logs ⟨folder, benchmark⟩)
        (collection.extend (Visit.operation? c logs ⟨folder, benchmark⟩).toList
          (Visit.note? logs ⟨folder, benchmark⟩).toList 0) := by
  rw [collectLog, missingLog, folder.logPath_eq_logAt benchmark, Visit.fault?, Visit.operation?,
    Visit.note?]
  cases state : logs (folder.logAt benchmark) with
  | absent =>
      simp [Visit.path, state, LogState.data?, Collection.extend, Option.guard, Visit.note]
  | unreadable fault => simp [Visit.path, state]
  | present data =>
      have merges : (BucketChange.merge (c.scan data)).apply = (·.merge (c.scan data)) := rfl
      simp [Visit.path, state, LogState.data?, Collection.extend, Option.guard,
        StoreOperation.apply, merges]

/-- The loop over the benchmark list. -/
theorem collectFolder_eq_orFail (c : Collector) (logs : Bytes → LogState) (collection : Collection)
    (folder : RunFolder) :
    c.collectFolder logs collection folder =
      orFail ((folder.visits c.benchmarks).findSome? (Visit.fault? logs))
        (collection.extend (c.folderOperations logs folder)
          ((folder.visits c.benchmarks).filterMap (Visit.note? logs)) 1) := by
  rw [collectFolder, foldlM_eq_orFail (c.collectLog_eq_orFail logs folder),
    Collection.foldl_extend fun benchmark => (Visit.operation? c logs ⟨folder, benchmark⟩).toList]
  have entered : { collection with
      store := collection.store.mention folder.runName
      folders := collection.folders + 1 } =
      collection.extend [.mention folder.runName] [] 1 := by
    simp [Collection.extend, StoreOperation.apply]
  rw [entered, Collection.extend_extend]
  simp [folderOperations, RunFolder.visits, List.findSome?_map, List.filterMap_eq_flatMap_toList,
    List.flatMap_map, Function.comp_def]

end Collector

/-- The loop over the folders: the collection fails with the error of the first unreadable log, and
else the accounts are those of all folders. -/
theorem Collector.collectPlan_eq_orFail (c : Collector) (logs : Bytes → LogState) (plan : Plan) :
    c.collectPlan logs plan =
      orFail ((plan.visits c.benchmarks).findSome? (Visit.fault? logs))
        ⟨.afterAll c.benchmarks (c.operations logs plan),
          (plan.visits c.benchmarks).filterMap (Visit.note? logs), plan.folders.length⟩ := by
  rw [collectPlan, foldlM_eq_orFail (c.collectFolder_eq_orFail logs),
    Collection.foldl_extend (c.folderOperations logs), Plan.visits, findSome?_flatMap,
    List.filterMap_flatMap]
  simp [Collection.extend, Store.afterAll, operations]

namespace Collection

/-- A collection is told by its three accounts. -/
theorem eq_iff (collection : Collection) (store : Store) (missing : List MissingLog)
    (folders : Nat) :
    ⟨store, missing, folders⟩ = collection ↔
      collection.missing = missing ∧ collection.folders = folders ∧ collection.store = store := by
  cases collection
  simp only [Collection.mk.injEq]
  constructor
  · rintro ⟨rfl, rfl, rfl⟩
    exact ⟨rfl, rfl, rfl⟩
  · rintro ⟨rfl, rfl, rfl⟩
    exact ⟨rfl, rfl, rfl⟩

end Collection

namespace Visit

theorem filterMap_note? (logs : Bytes → LogState) (visits : List Visit) :
    visits.filterMap (note? logs) =
      (visits.filter fun visit => (logs visit.path).isAbsent).map note := by
  rw [← List.filterMap_eq_filter, List.map_filterMap]
  rfl

/-- Where every log can be read, every look at one is noted or has data. -/
theorem length_filter_add_length_filter {logs : Bytes → LogState} {visits : List Visit}
    (readable : ∀ visit ∈ visits, ∀ fault, logs visit.path ≠ .unreadable fault) :
    (visits.filter fun visit => (logs visit.path).isAbsent).length +
      (visits.filter fun visit => (logs visit.path).data?.isSome).length = visits.length := by
  have absent : (visits.filter fun visit => (logs visit.path).isAbsent) =
      visits.filter fun visit => !(logs visit.path).data?.isSome := by
    apply List.filter_congr
    intro visit member
    exact LogState.isAbsent_eq_not_isSome (readable visit member)
  rw [absent, Nat.add_comm, ← List.length_eq_length_filter_add]

end Visit

namespace FileTree

variable {tree : FileTree} {here : Location} {path : Bytes}

/-- A log is missing where its path, links followed, does not lead to a regular file. -/
theorem logState_eq_absent_iff :
    tree.logState here path = .absent ↔ ∀ contents, tree.find here path ≠ .ok (.file contents) := by
  rw [logState, isFile, read]
  cases found : tree.find here path with
  | error fault => simp
  | ok node =>
      cases node with
      | directory => simp
      | link target => simp
      | file contents => simp [pure, Except.pure, bind, Except.bind]

/-- A log has the text of the regular file that its path leads to. -/
theorem logState_eq_present_iff {data : Bytes} :
    tree.logState here path = .present data ↔
      ∃ contents, tree.find here path = .ok (.file contents) ∧ contents.text = data := by
  rw [logState, isFile, read]
  cases found : tree.find here path with
  | error fault => simp
  | ok node =>
      cases node with
      | directory => simp
      | link target => simp
      | file contents => simp [pure, Except.pure, bind, Except.bind]

end FileTree

namespace Collector

variable {c : Collector} {logs : Bytes → LogState} {plan : Plan}

/-- The error is that of the first log that cannot be read. -/
theorem collectPlan_eq_error_iff {error : CollectError} :
    c.collectPlan logs plan = .error error ↔
      ∃ before visit after fault, plan.visits c.benchmarks = before ++ visit :: after ∧
        (∀ earlier ∈ before, ∀ other, logs earlier.path ≠ .unreadable other) ∧
        logs visit.path = .unreadable fault ∧ error = .log visit.path fault := by
  rw [c.collectPlan_eq_orFail, orFail_eq_error_iff, List.findSome?_eq_some_iff]
  simp only [Visit.fault?_eq_some_iff, Visit.fault?_eq_none_iff]
  constructor
  · rintro ⟨before, visit, after, split, ⟨fault, unreadable, same⟩, readable⟩
    exact ⟨before, visit, after, fault, split, readable, unreadable, same⟩
  · rintro ⟨before, visit, after, fault, split, readable, unreadable, same⟩
    exact ⟨before, visit, after, split, ⟨fault, unreadable, same⟩, readable⟩

/-- A collection that no log ends has every missing log noted and every other one merged in. -/
theorem collectPlan_eq_ok_iff {collection : Collection} :
    c.collectPlan logs plan = .ok collection ↔
      (∀ visit ∈ plan.visits c.benchmarks, ∀ fault, logs visit.path ≠ .unreadable fault) ∧
        collection.missing =
          ((plan.visits c.benchmarks).filter fun visit => (logs visit.path).isAbsent).map
            Visit.note ∧
        collection.folders = plan.folders.length ∧
        collection.store = .afterAll c.benchmarks (c.operations logs plan) := by
  rw [c.collectPlan_eq_orFail, orFail_eq_ok_iff, List.findSome?_eq_none_iff, Collection.eq_iff,
    Visit.filterMap_note?]
  simp only [Visit.fault?_eq_none_iff]

/-- It fails if there is a log that cannot be read, wherever it stands. -/
theorem exists_collectPlan_eq_error_iff :
    (∃ error, c.collectPlan logs plan = .error error) ↔
      ∃ visit ∈ plan.visits c.benchmarks, ∃ fault, logs visit.path = .unreadable fault := by
  constructor
  · rintro ⟨error, failed⟩
    obtain ⟨before, visit, after, fault, split, -, unreadable, -⟩ :=
      collectPlan_eq_error_iff.mp failed
    have member : visit ∈ before ++ visit :: after :=
      List.mem_append_right before List.mem_cons_self
    exact ⟨visit, split ▸ member, fault, unreadable⟩
  · rintro ⟨visit, member, fault, unreadable⟩
    cases outcome : c.collectPlan logs plan with
    | error error => exact ⟨error, rfl⟩
    | ok collection =>
        obtain ⟨readable, -⟩ := collectPlan_eq_ok_iff.mp outcome
        exact absurd unreadable (readable visit member fault)

/-- A missing log does not end the collection, and leaves the store alone. -/
theorem collectLog_of_absent {visit : Visit} (absent : logs visit.path = .absent)
    (collection : Collection) :
    c.collectLog logs visit.folder collection visit.benchmark =
      .ok { collection with missing := collection.missing ++ [visit.note] } := by
  rw [collectLog_eq_orFail, Visit.fault?, Visit.operation?, Visit.note?]
  simp [absent, LogState.data?, Collection.extend, Option.guard]

end Collector

/-- The accounts of a collection. It looks at one log after the other, folder by folder, and fails if
one of them cannot be read, with the path of the first one. If there is none, the missing logs are
noted in the order of the walk and every other log is scanned: its bucket is merged in, and nothing
else is done to the store but that the run of every folder is mentioned. The notes and the scans
together are one for each folder and benchmark. A missing log never ends the collection and never
changes the store; in a tree of files a log is missing unless its path, links followed, leads to a
regular file. -/
theorem collectPlan_accounts (c : Collector) (logs : Bytes → LogState) (plan : Plan) :
    let visits := plan.visits c.benchmarks
    ((∃ error, c.collectPlan logs plan = .error error) ↔
      ∃ visit ∈ visits, ∃ fault, logs visit.path = .unreadable fault) ∧
    (∀ error, c.collectPlan logs plan = .error error ↔
      ∃ before visit after fault, visits = before ++ visit :: after ∧
        (∀ earlier ∈ before, ∀ other, logs earlier.path ≠ .unreadable other) ∧
        logs visit.path = .unreadable fault ∧ error = .log visit.path fault) ∧
    (∀ collection, c.collectPlan logs plan = .ok collection ↔
      (∀ visit ∈ visits, ∀ fault, logs visit.path ≠ .unreadable fault) ∧
        collection.missing =
          (visits.filter fun visit => (logs visit.path).isAbsent).map Visit.note ∧
        collection.folders = plan.folders.length ∧
        collection.store = .afterAll c.benchmarks (c.operations logs plan)) ∧
    (∀ collection, c.collectPlan logs plan = .ok collection →
      collection.missing.length +
          (visits.filter fun visit => (logs visit.path).data?.isSome).length =
        plan.folders.length * c.benchmarks.length) ∧
    (∀ visit : Visit, logs visit.path = .absent → ∀ collection,
      c.collectLog logs visit.folder collection visit.benchmark =
        .ok { collection with missing := collection.missing ++ [visit.note] }) ∧
    ∀ (tree : FileTree) (here : Location) (path : Bytes),
      (tree.logState here path = .absent ↔
        ∀ contents, tree.find here path ≠ .ok (.file contents)) ∧
      ∀ data, tree.logState here path = .present data ↔
        ∃ contents, tree.find here path = .ok (.file contents) ∧ contents.text = data := by
  refine ⟨Collector.exists_collectPlan_eq_error_iff,
    fun error => Collector.collectPlan_eq_error_iff,
    fun collection => Collector.collectPlan_eq_ok_iff, ?_,
    fun visit => Collector.collectLog_of_absent, ?_⟩
  · intro collection ran
    obtain ⟨readable, missing, -, -⟩ := Collector.collectPlan_eq_ok_iff.mp ran
    rw [missing, List.length_map, Visit.length_filter_add_length_filter readable,
      plan.length_visits]
  · intro tree here path
    exact ⟨FileTree.logState_eq_absent_iff, fun data => FileTree.logState_eq_present_iff⟩

end Occupancy
