/-
Module: Occupancy.Proofs.StoreHistory
Purpose: What a store looks like behind any operations, and what each of them leaves alone.
Main exports: BucketChange, StoreOperation, Store.afterAll, StoreOperation.table,
  Store.afterAll_eq_tabulate, StoreOperation.Framed, store_of_operations
-/
import Mathlib.Data.List.Nodup
import Occupancy.Proofs.Folds
import Occupancy.Proofs.StoreTable

namespace Occupancy

/-!
A store is changed through look-ups that may make what they look for: naming a run makes it if it is
new, and its bucket of a benchmark is then changed in place, if there is one. The invariant of all
this is one equation (`Store.afterAll_eq_tabulate`). Behind any operations the store is the table
over the distinct run names, in the order in which they were first mentioned, and each operation
changes one entry of the table at the most. Uniqueness, order and shape are read off the table, and
so is what an operation leaves alone, also where a benchmark is listed twice.
-/

/-- What is done to a bucket that is there. -/
inductive BucketChange where
  | record (value : UInt32)
  | merge (other : Bucket)
  | assign (bucket : Bucket)
deriving Repr

/-- The bucket behind a change. -/
def BucketChange.apply : BucketChange → Bucket → Bucket
  | record value, b => b.record value
  | merge other, b => b.merge other
  | assign bucket, _ => bucket

/-- What is done to a store: a run is mentioned, or a run is mentioned and then its bucket of a
benchmark is changed, if it has one. -/
inductive StoreOperation where
  | mention (run : String)
  | change (run benchmark : String) (how : BucketChange)
deriving Repr

namespace StoreOperation

/-- The run that an operation mentions. -/
def run : StoreOperation → String
  | mention run | change run _ _ => run

/-- The benchmark that an operation looks up in the run. -/
def benchmark? : StoreOperation → Option String
  | mention _ => none
  | change _ benchmark _ => some benchmark

/-- What an operation does to the bucket that it finds. -/
def bucket : StoreOperation → Bucket → Bucket
  | mention _, b => b
  | change _ _ how, b => how.apply b

/-- The store behind an operation. -/
def apply (s : Store) : StoreOperation → Store
  | mention run => s.mention run
  | change run benchmark how => s.update run benchmark how.apply

/-- What an operation does to a table of buckets. -/
def tabled (table : String → String → Bucket) : StoreOperation → String → String → Bucket
  | mention _ => table
  | change run benchmark how =>
    Function.update table run
      (Function.update (table run) benchmark (how.apply (table run benchmark)))

/-- The table of buckets behind some operations. -/
def table (operations : List StoreOperation) : String → String → Bucket :=
  operations.foldl tabled fun _ _ => .empty

end StoreOperation

namespace Store

/-- The names of the runs, in their order. -/
def names (s : Store) : List String := s.runs.map (·.name)

/-- The bucket at a place of the run at an index. -/
def slot? (s : Store) (index place : Nat) : Option BenchmarkBucket :=
  s.runs[index]?.bind fun run => run.buckets[place]?

/-- The store behind some operations on a new one. -/
def afterAll (benchmarks : List String) (operations : List StoreOperation) : Store :=
  operations.foldl StoreOperation.apply (.new benchmarks)

theorem afterAll_concat (benchmarks : List String) (operations : List StoreOperation)
    (operation : StoreOperation) :
    afterAll benchmarks (operations ++ [operation]) =
      operation.apply (afterAll benchmarks operations) := by
  rw [afterAll, List.foldl_append]
  rfl

end Store

/-! ### Operations on tables -/

namespace StoreOperation

/-- The names behind an operation: one that is new is put last. -/
def mentioned (names : List String) (operation : StoreOperation) : List String :=
  if operation.run ∈ names then names else names ++ [operation.run]

theorem mem_mentioned {names : List String} {operation : StoreOperation} {name : String} :
    name ∈ operation.mentioned names ↔ name ∈ names ∨ name = operation.run := by
  unfold mentioned
  split
  · next old =>
      constructor
      · exact Or.inl
      · rintro (there | rfl)
        · exact there
        · exact old
  · rw [List.mem_append, List.mem_singleton]

/-- Every name keeps its place. -/
theorem prefix_mentioned (names : List String) (operation : StoreOperation) :
    names <+: operation.mentioned names := by
  unfold mentioned
  split
  · exact List.prefix_refl _
  · exact List.prefix_append _ _

theorem nodup_mentioned {names : List String} (operation : StoreOperation) (nodup : names.Nodup) :
    (operation.mentioned names).Nodup := by
  unfold mentioned
  split
  · exact nodup
  · next fresh =>
      rw [← List.concat_eq_append]
      exact nodup.concat fresh

/-- One entry of a table changes at the most. -/
theorem tabled_eq_ite (table : String → String → Bucket) (operation : StoreOperation)
    (run benchmark : String) :
    operation.tabled table run benchmark =
      if run = operation.run ∧ operation.benchmark? = some benchmark then
        operation.bucket (table run benchmark)
      else table run benchmark := by
  cases operation with
  | mention _ => exact (ite_self _).symm
  | change name entry how =>
      by_cases runHit : run = name
      · subst runHit
        rw [tabled, Function.update_self]
        by_cases entryHit : benchmark = entry
        · subst entryHit
          rw [Function.update_self, if_pos ⟨rfl, rfl⟩, bucket]
        · rw [Function.update_of_ne entryHit, if_neg]
          rintro ⟨-, same⟩
          exact entryHit (Option.some.inj same).symm
      · rw [tabled, Function.update_of_ne runHit, if_neg fun both => runHit both.1]

theorem tabled_of_ne (table : String → String → Bucket) (operation : StoreOperation) {run : String}
    (other : run ≠ operation.run) : operation.tabled table run = table run := by
  funext benchmark
  rw [tabled_eq_ite, if_neg fun both => other both.1]

/-- A run that has not been mentioned has nothing in the table. -/
theorem table_of_not_mem {operations : List StoreOperation} {run : String}
    (absent : run ∉ (operations.map (·.run)).eraseDups) :
    table operations run = fun _ => .empty := by
  rw [List.mem_eraseDups] at absent
  induction operations using List.reverseRecOn with
  | nil => rfl
  | append_singleton operations operation inductionHypothesis =>
      rw [List.map_append, List.mem_append, not_or, List.map_singleton, List.mem_singleton] at absent
      rw [table, List.foldl_append]
      exact (tabled_of_ne _ operation absent.2).trans (inductionHypothesis absent.1)

/-- On a table an operation extends the names and changes one entry at the most. -/
theorem apply_tabulate {benchmarks names : List String} {table : String → String → Bucket}
    (operation : StoreOperation) (nodup : names.Nodup)
    (blank : operation.run ∉ names → table operation.run = fun _ => .empty) :
    operation.apply (.tabulate benchmarks names table) =
      .tabulate benchmarks (operation.mentioned names) (operation.tabled table) := by
  cases operation with
  | mention run => exact Store.mention_tabulate blank
  | change run benchmark how =>
      have distinct := (change run benchmark how).nodup_mentioned nodup
      have there : (Store.tabulate benchmarks names table).mention run =
          .tabulate benchmarks ((change run benchmark how).mentioned names) table :=
        Store.mention_tabulate blank
      rw [apply, Store.update, there]
      simp only [Store.tabulate, Store.updateRuns_tabulate table run benchmark _ distinct]
      rfl

end StoreOperation

/-- The invariant: a store is the table of its operations over the distinct run names, in the order
in which they were first mentioned. -/
theorem Store.afterAll_eq_tabulate (benchmarks : List String) (operations : List StoreOperation) :
    afterAll benchmarks operations =
      .tabulate benchmarks (operations.map (·.run)).eraseDups (StoreOperation.table operations) := by
  induction operations using List.reverseRecOn with
  | nil => rfl
  | append_singleton operations operation inductionHypothesis =>
      have names : ((operations ++ [operation]).map (·.run)).eraseDups =
          operation.mentioned (operations.map (·.run)).eraseDups := by
        rw [List.map_append, List.map_singleton, eraseDups_concat, StoreOperation.mentioned]
        simp only [List.mem_eraseDups]
      have table : StoreOperation.table (operations ++ [operation]) =
          operation.tabled (StoreOperation.table operations) := by
        rw [StoreOperation.table, List.foldl_append]
        rfl
      rw [afterAll_concat, inductionHypothesis,
        StoreOperation.apply_tabulate operation (nodup_eraseDups _) StoreOperation.table_of_not_mem,
        names, table]

/-! ### Reading a table -/

namespace Store

section Tables

variable (benchmarks names : List String) (table : String → String → Bucket)

@[simp] theorem names_tabulate : (tabulate benchmarks names table).names = names := by
  rw [Store.names, tabulate, List.map_map]
  exact List.map_id names

theorem run?_tabulate (name : String) :
    (tabulate benchmarks names table).run? name =
      if name ∈ names then some (.tabulate benchmarks name (table name)) else none := by
  rw [run?, tabulate]
  induction names with
  | nil => rfl
  | cons head rest inductionHypothesis =>
      rw [List.map_cons, List.find?_cons]
      by_cases hit : head = name
      · subst hit
        simp [Run.tabulate]
      · have other : ((Run.tabulate benchmarks head (table head)).name == name) = false :=
          beq_false_of_ne hit
        rw [other, inductionHypothesis]
        simp [Ne.symm hit]

theorem get?_tabulate (run benchmark : String) :
    (tabulate benchmarks names table).get? run benchmark =
      if run ∈ names ∧ benchmark ∈ benchmarks then some (table run benchmark) else none := by
  rw [get?, run?_tabulate]
  by_cases named : run ∈ names
  · by_cases listed : benchmark ∈ benchmarks
    · rw [if_pos named, if_pos ⟨named, listed⟩, Option.bind_some, Run.get?_tabulate listed]
    · rw [if_pos named, if_neg fun both => listed both.2, Option.bind_some,
        Run.get?_tabulate_of_not_mem listed]
  · rw [if_neg named, if_neg fun both => named both.1, Option.bind_none]

/-- The bucket at a place is the one of its name at the first place of the name, and an empty one at
every later place. -/
theorem slot?_tabulate {index place : Nat} {name benchmark : String}
    (named : names[index]? = some name) (listed : benchmarks[place]? = some benchmark) :
    (tabulate benchmarks names table).slot? index place =
      some ⟨benchmark, if benchmarks.idxOf benchmark = place then table name benchmark
        else .empty⟩ := by
  rw [slot?, tabulate, List.getElem?_map, named]
  simp [Run.tabulate, slots, List.getElem?_mapIdx, listed]

end Tables

/-- Where there is a bucket there are the names of a run and of a benchmark. -/
theorem exists_of_slot?_tabulate {benchmarks names : List String}
    {table : String → String → Bucket} {index place : Nat} {slot : BenchmarkBucket}
    (there : (tabulate benchmarks names table).slot? index place = some slot) :
    ∃ name benchmark, names[index]? = some name ∧ benchmarks[place]? = some benchmark := by
  cases named : names[index]? with
  | none => simp [slot?, tabulate, named] at there
  | some name =>
      cases listed : benchmarks[place]? with
      | none => simp [slot?, tabulate, named, Run.tabulate, slots, listed] at there
      | some benchmark => exact ⟨name, benchmark, rfl, rfl⟩

end Store

/-! ### What an operation leaves alone -/

namespace StoreOperation

/-- The operation changes the bucket at this place: it is the first of the benchmark in the run. A
run that is new counts with the index that it is going to have. -/
def Hits (operation : StoreOperation) (s : Store) (index place : Nat) : Prop :=
  index = s.names.idxOf operation.run ∧
    operation.benchmark?.map s.benchmarks.idxOf = some place

instance (operation : StoreOperation) (s : Store) (index place : Nat) :
    Decidable (operation.Hits s index place) :=
  inferInstanceAs (Decidable (_ ∧ _))

/-- What an operation does, and what it leaves alone. -/
structure Framed (operation : StoreOperation) (before after : Store) : Prop where
  /-- Every run keeps its place. -/
  places : before.names <+: after.names
  /-- Of all buckets that are there only the first of the benchmark in the run can change. -/
  onlyFirst : ∀ index place slot, before.slot? index place = some slot →
    after.slot? index place =
      some ⟨slot.benchmark, if operation.Hits before index place then operation.bucket slot.bucket
        else slot.bucket⟩
  /-- A run that is new has empty buckets, of which the same one can change. -/
  created : operation.run ∉ before.names →
    ∀ place benchmark, before.benchmarks[place]? = some benchmark →
      after.slot? before.names.length place =
        some ⟨benchmark, if operation.Hits before before.names.length place then
          operation.bucket .empty else .empty⟩
  /-- Looking the pair up gives the changed bucket. -/
  read : ∀ benchmark ∈ before.benchmarks, operation.benchmark? = some benchmark →
    after.get? operation.run benchmark =
      some (operation.bucket ((before.get? operation.run benchmark).getD .empty))
  /-- Where the benchmark is not listed the run is mentioned and no more. -/
  missed : ∀ benchmark ∉ before.benchmarks, operation.benchmark? = some benchmark →
    after = before.mention operation.run
  /-- Looking any other pair up gives what it gave before, but for the empty buckets of a run that
  has just been made. -/
  frame : ∀ run benchmark, ¬(run = operation.run ∧ operation.benchmark? = some benchmark) →
    after.get? run benchmark = before.get? run benchmark ∨
      run = operation.run ∧ run ∉ before.names ∧ after.get? run benchmark = some .empty

/-- Behind an operation its run is where it was, or at the end if it is new. -/
theorem idxOf_mentioned (names : List String) (operation : StoreOperation) :
    (operation.mentioned names).idxOf operation.run = names.idxOf operation.run := by
  unfold mentioned
  split
  · rfl
  · next fresh =>
      rw [List.idxOf_append, if_neg fresh, List.idxOf_cons_self, Nat.zero_add,
        List.idxOf_eq_length fresh]

/-- An item is first found at a place if it is the one that is there and has not been before. -/
theorem idxOf_eq_iff_of_getElem? {items : List String} {place : Nat} {item : String}
    (there : items[place]? = some item) (wanted : String) :
    items.idxOf wanted = place ↔ wanted = item ∧ items.idxOf item = place := by
  constructor
  · intro found
    obtain ⟨bound, -⟩ := List.getElem?_eq_some_iff.mp there
    have member : wanted ∈ items := List.idxOf_lt_length_iff.mp (found ▸ bound)
    have same : wanted = item := by
      have read := List.getElem?_idxOf member
      rw [found, there] at read
      exact (Option.some.inj read).symm
    subst same
    exact ⟨rfl, found⟩
  · rintro ⟨rfl, first⟩
    exact first

section Tables

variable {benchmarks names : List String} {table : String → String → Bucket}
  {operation : StoreOperation}

/-- Told by the names that are there, an operation hits the first bucket of its pair. -/
theorem hits_tabulate_iff {index place : Nat} {name benchmark : String} (nodup : names.Nodup)
    (named : (operation.mentioned names)[index]? = some name)
    (listed : benchmarks[place]? = some benchmark) :
    operation.Hits (.tabulate benchmarks names table) index place ↔
      (name = operation.run ∧ operation.benchmark? = some benchmark) ∧
        benchmarks.idxOf benchmark = place := by
  have first : (operation.mentioned names).idxOf name = index := by
    obtain ⟨bound, rfl⟩ := List.getElem?_eq_some_iff.mp named
    exact (operation.nodup_mentioned nodup).idxOf_getElem index bound
  have atRun : index = names.idxOf operation.run ↔ name = operation.run := by
    rw [← idxOf_mentioned, eq_comm, idxOf_eq_iff_of_getElem? named, and_iff_left first, eq_comm]
  have atBenchmark : operation.benchmark?.map benchmarks.idxOf = some place ↔
      operation.benchmark? = some benchmark ∧ benchmarks.idxOf benchmark = place := by
    rw [Option.map_eq_some_iff]
    constructor
    · rintro ⟨wanted, looked, found⟩
      obtain ⟨rfl, here⟩ := (idxOf_eq_iff_of_getElem? listed wanted).mp found
      exact ⟨looked, here⟩
    · rintro ⟨looked, found⟩
      exact ⟨benchmark, looked, found⟩
  rw [Hits, Store.names_tabulate, atRun, and_assoc]
  exact and_congr_right fun _ => atBenchmark

/-- Behind an operation the bucket at a place is the one that the table had, changed if the operation
hits it. -/
theorem slot?_tabled {index place : Nat} {name benchmark : String} (nodup : names.Nodup)
    (named : (operation.mentioned names)[index]? = some name)
    (listed : benchmarks[place]? = some benchmark) {old : Bucket}
    (value : old = if benchmarks.idxOf benchmark = place then table name benchmark else .empty) :
    (Store.tabulate benchmarks (operation.mentioned names) (operation.tabled table)).slot?
        index place =
      some ⟨benchmark,
        if operation.Hits (.tabulate benchmarks names table) index place then operation.bucket old
        else old⟩ := by
  rw [Store.slot?_tabulate _ _ _ named listed, tabled_eq_ite, value]
  simp only [hits_tabulate_iff nodup named listed]
  by_cases first : benchmarks.idxOf benchmark = place
  · simp only [first, if_true, and_true]
  · simp only [first, if_false, and_false]

/-- On a table, whose runs that are not there are blank, an operation does this and no more. -/
theorem framed_tabulate (nodup : names.Nodup)
    (blank : ∀ run ∉ names, table run = fun _ => .empty) :
    operation.Framed (.tabulate benchmarks names table)
      (.tabulate benchmarks (operation.mentioned names) (operation.tabled table)) where
  places := by
    rw [Store.names_tabulate, Store.names_tabulate]
    exact prefix_mentioned names operation
  onlyFirst := by
    intro index place slot there
    obtain ⟨name, benchmark, named, listed⟩ := Store.exists_of_slot?_tabulate there
    have kept : (operation.mentioned names)[index]? = some name := by
      obtain ⟨later, extended⟩ := prefix_mentioned names operation
      obtain ⟨bound, -⟩ := List.getElem?_eq_some_iff.mp named
      rwa [← extended, List.getElem?_append_left bound]
    rw [Store.slot?_tabulate _ _ _ named listed] at there
    cases there
    exact slot?_tabled nodup kept listed rfl
  created := by
    intro fresh place benchmark listed
    rw [Store.names_tabulate] at fresh
    rw [Store.names_tabulate]
    have last : (operation.mentioned names)[names.length]? = some operation.run := by
      rw [mentioned, if_neg fresh, List.getElem?_concat_length]
    have empty : Bucket.empty = if benchmarks.idxOf benchmark = place
        then table operation.run benchmark else .empty := by
      rw [blank _ fresh, ite_self]
    exact slot?_tabled nodup last listed empty
  read := by
    intro benchmark listed looked
    have there : operation.run ∈ operation.mentioned names := mem_mentioned.mpr (Or.inr rfl)
    rw [Store.get?_tabulate, Store.get?_tabulate, if_pos ⟨there, listed⟩, tabled_eq_ite,
      if_pos ⟨rfl, looked⟩]
    by_cases old : operation.run ∈ names
    · rw [if_pos ⟨old, listed⟩, Option.getD_some]
    · rw [if_neg fun both => old both.1, Option.getD_none, blank _ old]
  missed := by
    intro benchmark unlisted looked
    rw [Store.mention_tabulate (blank _)]
    have untouched : ∀ name, Run.tabulate benchmarks name (operation.tabled table name) =
        Run.tabulate benchmarks name (table name) := by
      intro name
      rw [Run.tabulate, Run.tabulate]
      congr 1
      apply slots_congr
      intro other listed
      rw [tabled_eq_ite, if_neg]
      rintro ⟨-, same⟩
      rw [looked, Option.some.injEq] at same
      exact unlisted (same ▸ listed)
    rw [Store.tabulate, Store.tabulate]
    simp only [untouched, mentioned]
  frame := by
    intro run benchmark other
    rw [Store.get?_tabulate, Store.get?_tabulate, Store.names_tabulate, tabled_eq_ite,
      if_neg other]
    simp only [mem_mentioned]
    by_cases old : run ∈ names
    · left
      simp only [old, true_or]
    · by_cases created : run = operation.run ∧ benchmark ∈ benchmarks
      · right
        refine ⟨created.1, old, ?_⟩
        rw [if_pos ⟨Or.inr created.1, created.2⟩, blank run old]
      · left
        simp only [old, false_or, false_and, created, if_false]

end Tables

end StoreOperation

/-- The store behind any operations on a new one. The runs are distinct and in the order in which
they were first mentioned, also by an operation that found no bucket; every run has one bucket for
each entry of the benchmark list, in its order; and one more operation changes the first bucket of
its pair and no other. -/
theorem store_of_operations (benchmarks : List String) (operations : List StoreOperation) :
    let store := Store.afterAll benchmarks operations
    store.benchmarks = benchmarks ∧
      store.names.Nodup ∧
      store.names = (operations.map (·.run)).eraseDups ∧
      (∀ run ∈ store.runs, run.buckets.map (·.benchmark) = benchmarks) ∧
      ∀ operation : StoreOperation, operation.Framed store (operation.apply store) := by
  rw [Store.afterAll_eq_tabulate]
  refine ⟨rfl, ?_, Store.names_tabulate _ _ _, ?_, ?_⟩
  · rw [Store.names_tabulate]
    exact nodup_eraseDups _
  · intro run member
    obtain ⟨name, -, rfl⟩ := List.mem_map.mp member
    exact map_benchmark_slots _ _
  · intro operation
    have distinct := nodup_eraseDups (operations.map (·.run))
    rw [StoreOperation.apply_tabulate operation distinct StoreOperation.table_of_not_mem]
    exact StoreOperation.framed_tabulate distinct fun _ => StoreOperation.table_of_not_mem

/-- A benchmark that is not listed still puts its run into the order, and of two buckets of one name
only the first is written. -/
example :
    let store := Store.afterAll ["vgg16", "", "vgg16"]
      [.change "b" "vgg19" (.record 7), .change "a" "vgg16" (.record 5), .mention "b"]
    store.names = ["b", "a"] ∧
      [0, 1, 2].map (fun place => (store.slot? 1 place).map (·.bucket.total)) =
        [some 5, some 0, some 0] := by
  decide

end Occupancy
