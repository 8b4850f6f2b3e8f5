/-
Module: Occupancy.Store
Purpose: Buckets of every run and benchmark, in the order in which runs were first named.
Main exports: BenchmarkBucket, Run, Store, Store.mention, Store.update
-/
import Occupancy.Bucket

namespace Occupancy

/-- The bucket of one benchmark. -/
structure BenchmarkBucket where
  benchmark : String
  bucket : Bucket
deriving Repr, Inhabited

/-- The buckets of one run name. -/
structure Run where
  name : String
  buckets : List BenchmarkBucket
deriving Repr, Inhabited

namespace Run

/-- A run with an empty bucket for each benchmark. -/
def new (name : String) (benchmarks : List String) : Run :=
  ⟨name, benchmarks.map (⟨·, .empty⟩)⟩

/-- The first bucket of a benchmark. -/
def get? (run : Run) (benchmark : String) : Option Bucket :=
  (run.buckets.find? (·.benchmark == benchmark)).map (·.bucket)

/-- Saturating sum of the totals. -/
def total (run : Run) : UInt64 :=
  run.buckets.foldl (fun sum b => saturatingAdd sum b.bucket.total) 0

/-- Saturating sum of the kernel counts. -/
def kernels (run : Run) : UInt64 :=
  run.buckets.foldl (fun sum b => saturatingAdd sum b.bucket.kernels) 0

end Run

/-- Change the first bucket of the benchmark; without one nothing changes. -/
def updateFirst (benchmark : String) (f : Bucket → Bucket) :
    List BenchmarkBucket → List BenchmarkBucket
  | [] => []
  | b :: rest =>
    if b.benchmark == benchmark then ⟨b.benchmark, f b.bucket⟩ :: rest
    else b :: updateFirst benchmark f rest

/-- The buckets of every run, in the order in which the runs were first mentioned. -/
structure Store where
  benchmarks : List String
  runs : List Run
deriving Repr, Inhabited

namespace Store

/-- A store without runs over a benchmark list. -/
def new (benchmarks : List String) : Store := ⟨benchmarks, []⟩

/-- Look a run up. -/
def run? (s : Store) (name : String) : Option Run :=
  s.runs.find? (·.name == name)

/-- Look the bucket of a (run, benchmark) pair up. -/
def get? (s : Store) (run benchmark : String) : Option Bucket :=
  (s.run? run).bind (·.get? benchmark)

/-- Make sure that the run is there: a name not seen before is put last, with an empty bucket for
each benchmark. -/
def mention (s : Store) (name : String) : Store :=
  if (s.run? name).isSome then s
  else { s with runs := s.runs ++ [Run.new name s.benchmarks] }

/-- Change the first bucket of the benchmark in the first run of the name. -/
def updateRuns (run benchmark : String) (f : Bucket → Bucket) : List Run → List Run
  | [] => []
  | r :: rest =>
    if r.name == run then { r with buckets := updateFirst benchmark f r.buckets } :: rest
    else r :: updateRuns run benchmark f rest

/-- Mention the run and change its bucket of the benchmark, if it has one. -/
def update (s : Store) (run benchmark : String) (f : Bucket → Bucket) : Store :=
  let s := s.mention run
  { s with runs := updateRuns run benchmark f s.runs }

end Store
end Occupancy
