/-
Module: Occupancy.Proofs.StoreTable
Purpose: Stores that are told by one bucket for each run and benchmark.
Main exports: slots, Store.tabulate, updateFirst_slots, Store.mention_tabulate,
  Store.update_tabulate
-/
import Mathlib.Logic.Function.Basic
import Occupancy.Store

namespace Occupancy

/-!
A benchmark list may name a benchmark twice, and a run then has two buckets of that name. Every
look-up finds the first of them, so only the first is ever written and the others stay as they were
made. Such a store is told by the distinct run names, the benchmark list and one bucket for each
(run, benchmark) pair; mentioning a run extends the names, and an update changes one pair.
-/

/-- A bucket for each entry of a benchmark list, in the order of the list. The first entry of a name
has the bucket of that name, and every later one is empty. -/
def slots (bucket : String → Bucket) (benchmarks : List String) : List BenchmarkBucket :=
  benchmarks.mapIdx fun index benchmark =>
    ⟨benchmark, if benchmarks.idxOf benchmark = index then bucket benchmark else .empty⟩

@[simp] theorem slots_nil (bucket : String → Bucket) : slots bucket [] = [] := rfl

/-- Behind the first entry of a name the list goes on as if the bucket of that name were empty. -/
theorem slots_cons (bucket : String → Bucket) (benchmark : String) (rest : List String) :
    slots bucket (benchmark :: rest) =
      ⟨benchmark, bucket benchmark⟩ :: slots (Function.update bucket benchmark .empty) rest := by
  rw [slots, List.mapIdx_cons, List.idxOf_cons_self, if_pos rfl, slots]
  congr 1
  rw [List.mapIdx_eq_mapIdx_iff]
  intro index bound
  by_cases hit : rest[index] = benchmark
  · rw [hit, List.idxOf_cons_self, Function.update_self, if_neg (Nat.succ_ne_zero index).symm,
      ite_self]
  · rw [List.idxOf_cons, beq_false_of_ne (Ne.symm hit), Function.update_of_ne hit]
    simp only [cond_false, Nat.add_right_cancel_iff]

/-- The buckets of a run follow the benchmark list entry by entry. -/
theorem map_benchmark_slots (bucket : String → Bucket) (benchmarks : List String) :
    (slots bucket benchmarks).map (·.benchmark) = benchmarks := by
  induction benchmarks generalizing bucket with
  | nil => rfl
  | cons benchmark rest inductionHypothesis =>
      rw [slots_cons, List.map_cons, inductionHypothesis]

/-- Only the buckets of names in the list matter. -/
theorem slots_congr {bucket other : String → Bucket} {benchmarks : List String}
    (same : ∀ benchmark ∈ benchmarks, bucket benchmark = other benchmark) :
    slots bucket benchmarks = slots other benchmarks := by
  induction benchmarks generalizing bucket other with
  | nil => rfl
  | cons head rest inductionHypothesis =>
      rw [slots_cons, slots_cons, same head List.mem_cons_self]
      congr 1
      apply inductionHypothesis
      intro benchmark member
      by_cases hit : benchmark = head
      · subst hit
        rw [Function.update_self, Function.update_self]
      · rw [Function.update_of_ne hit, Function.update_of_ne hit]
        exact same benchmark (List.mem_cons_of_mem _ member)

theorem slots_empty (benchmarks : List String) :
    slots (fun _ => .empty) benchmarks = benchmarks.map (⟨·, .empty⟩) := by
  induction benchmarks with
  | nil => rfl
  | cons benchmark rest inductionHypothesis =>
      rw [slots_cons, Function.update_eq_self, inductionHypothesis, List.map_cons]

/-- A bucket of a run is the one of its name, or an empty one of a repeated name. -/
theorem bucket_eq_of_mem_slots {bucket : String → Bucket} {benchmarks : List String}
    {slot : BenchmarkBucket} (member : slot ∈ slots bucket benchmarks) :
    slot.benchmark ∈ benchmarks ∧
      (slot.bucket = bucket slot.benchmark ∨ slot.bucket = .empty) := by
  induction benchmarks generalizing bucket with
  | nil => simp at member
  | cons head rest inductionHypothesis =>
      rw [slots_cons, List.mem_cons] at member
      rcases member with rfl | later
      · exact ⟨List.mem_cons_self, Or.inl rfl⟩
      · obtain ⟨listed, value⟩ := inductionHypothesis later
        refine ⟨List.mem_cons_of_mem _ listed, ?_⟩
        by_cases hit : slot.benchmark = head
        · rw [hit, Function.update_self] at value
          exact Or.inr (value.elim id id)
        · rwa [Function.update_of_ne hit] at value

/-- Writing finds the first bucket of a name, and so writes the bucket of that name. -/
theorem updateFirst_slots (bucket : String → Bucket) (benchmark : String) (f : Bucket → Bucket)
    (benchmarks : List String) :
    updateFirst benchmark f (slots bucket benchmarks) =
      slots (Function.update bucket benchmark (f (bucket benchmark))) benchmarks := by
  induction benchmarks generalizing bucket with
  | nil => rfl
  | cons head rest inductionHypothesis =>
      rw [slots_cons, slots_cons, updateFirst]
      by_cases hit : head = benchmark
      · subst hit
        rw [if_pos (beq_self_eq_true _), Function.update_self, Function.update_idem]
      · rw [if_neg (by simpa using hit), inductionHypothesis, Function.update_of_ne hit,
          Function.update_of_ne (Ne.symm hit), Function.update_comm hit]

/-- Reading finds the same bucket. -/
theorem find?_slots {bucket : String → Bucket} {benchmark : String} {benchmarks : List String}
    (listed : benchmark ∈ benchmarks) :
    (slots bucket benchmarks).find? (·.benchmark == benchmark) =
      some ⟨benchmark, bucket benchmark⟩ := by
  induction benchmarks generalizing bucket with
  | nil => simp at listed
  | cons head rest inductionHypothesis =>
      rw [slots_cons, List.find?_cons]
      by_cases hit : head = benchmark
      · subst hit
        rw [beq_self_eq_true]
      · have later : benchmark ∈ rest := (List.mem_cons.mp listed).resolve_left (Ne.symm hit)
        rw [beq_false_of_ne hit, inductionHypothesis later, Function.update_of_ne (Ne.symm hit)]

/-- Reading finds nothing where the name is not listed. -/
theorem find?_slots_of_not_mem (bucket : String → Bucket) {benchmark : String}
    {benchmarks : List String} (unlisted : benchmark ∉ benchmarks) :
    (slots bucket benchmarks).find? (·.benchmark == benchmark) = none := by
  rw [List.find?_eq_none]
  intro slot member found
  obtain ⟨listed, -⟩ := bucket_eq_of_mem_slots member
  exact unlisted (eq_of_beq found ▸ listed)

/-- The run of a name over a benchmark list. -/
def Run.tabulate (benchmarks : List String) (name : String) (bucket : String → Bucket) : Run :=
  ⟨name, slots bucket benchmarks⟩

theorem Run.get?_tabulate {benchmarks : List String} {name benchmark : String}
    {bucket : String → Bucket} (listed : benchmark ∈ benchmarks) :
    (Run.tabulate benchmarks name bucket).get? benchmark = some (bucket benchmark) := by
  rw [Run.get?, Run.tabulate, find?_slots listed, Option.map_some]

theorem Run.get?_tabulate_of_not_mem {benchmarks : List String} {name benchmark : String}
    {bucket : String → Bucket} (unlisted : benchmark ∉ benchmarks) :
    (Run.tabulate benchmarks name bucket).get? benchmark = none := by
  rw [Run.get?, Run.tabulate, find?_slots_of_not_mem bucket unlisted, Option.map_none]

theorem Run.new_eq_tabulate (benchmarks : List String) (name : String) :
    Run.new name benchmarks = Run.tabulate benchmarks name fun _ => .empty := by
  rw [Run.new, Run.tabulate, slots_empty]

namespace Store

/-- The store with one run for each of the names, and one bucket for each pair. -/
def tabulate (benchmarks names : List String) (bucket : String → String → Bucket) : Store :=
  ⟨benchmarks, names.map fun name => .tabulate benchmarks name (bucket name)⟩

theorem isSome_run?_tabulate (benchmarks names : List String) (bucket : String → String → Bucket)
    (name : String) :
    ((tabulate benchmarks names bucket).run? name).isSome = decide (name ∈ names) := by
  rw [Bool.eq_iff_iff, decide_eq_true_iff, run?, List.find?_isSome]
  simp [tabulate, Run.tabulate]

/-- A run that is there stays where it is, and one that is not is put last. Its buckets are empty,
which is what the table has to say of it. -/
theorem mention_tabulate {benchmarks names : List String} {bucket : String → String → Bucket}
    {name : String} (blank : name ∉ names → bucket name = fun _ => .empty) :
    (tabulate benchmarks names bucket).mention name =
      tabulate benchmarks (if name ∈ names then names else names ++ [name]) bucket := by
  rw [mention, isSome_run?_tabulate]
  by_cases member : name ∈ names
  · simp [member]
  · simp only [member, decide_false, Bool.false_eq_true, if_false]
    simp [tabulate, Run.new_eq_tabulate, blank member]

theorem updateRuns_tabulate {benchmarks names : List String}
    (bucket : String → String → Bucket) (run benchmark : String) (f : Bucket → Bucket)
    (nodup : names.Nodup) :
    updateRuns run benchmark f
        (names.map fun name => .tabulate benchmarks name (bucket name)) =
      names.map fun name => .tabulate benchmarks name
        (Function.update bucket run
          (Function.update (bucket run) benchmark (f (bucket run benchmark))) name) := by
  induction names with
  | nil => rfl
  | cons name rest inductionHypothesis =>
      rw [List.map_cons, List.map_cons, updateRuns]
      rw [List.nodup_cons] at nodup
      by_cases hit : name = run
      · subst hit
        have frame : ∀ other ∈ rest, other ≠ name := fun other member same =>
          nodup.1 (same ▸ member)
        simp only [Run.tabulate, beq_self_eq_true, if_true, updateFirst_slots,
          Function.update_self]
        congr 1
        apply List.map_congr_left
        intro other member
        rw [Function.update_of_ne (frame other member)]
      · rw [if_neg (by simpa [Run.tabulate] using hit), inductionHypothesis nodup.2,
          Function.update_of_ne hit]

/-- An update of a run that is there changes the bucket of one pair. -/
theorem update_tabulate {benchmarks names : List String} {bucket : String → String → Bucket}
    {run : String} (benchmark : String) (f : Bucket → Bucket) (nodup : names.Nodup)
    (member : run ∈ names) :
    (tabulate benchmarks names bucket).update run benchmark f =
      tabulate benchmarks names
        (Function.update bucket run
          (Function.update (bucket run) benchmark (f (bucket run benchmark)))) := by
  rw [update, mention_tabulate (absurd member), if_pos member]
  simp only [tabulate, updateRuns_tabulate bucket run benchmark f nodup]

end Store
end Occupancy
