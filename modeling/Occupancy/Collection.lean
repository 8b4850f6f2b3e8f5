/-
Module: Occupancy.Collection
Purpose: Scanning the logs of a plan into a store of buckets.
Main exports: Collector, LogState, MissingLog, Collection, Collector.scan, Collector.collectPlan,
  Collector.collect
-/
import Occupancy.Plan
import Occupancy.Sample
import Occupancy.Store
import Occupancy.Text.Line

namespace Occupancy

/-- The benchmarks that are reported when no others are named. -/
def standardBenchmarks : List String :=
  ["densenet121", "densenet169", "densenet201", "inception_resnet_v2", "inception_v3",
    "mobilenet", "nasnet_large", "nasnet_mobile", "resnet50", "vgg16", "vgg19", "xception",
    "imdb_lstm"]

/-- Kernels whose occupancy is printed before they are scheduled, so that it does not count. -/
def standardIgnoredKernels : List String :=
  ["copyBufferRect", "copyBufferRectAligned", "copyBuffer", "copyBufferAligned", "fillBuffer",
    "copyBufferToImage", "copyImageToBuffer", "copyImage", "copyImage1DA", "fillImage",
    "scheduler"]

/-- What is collected: the benchmarks, the kernels that do not count, and the rule for lines. -/
structure Collector where
  benchmarks : List String
  ignoredKernels : List String
  rule : LineRule
deriving Repr, Inhabited

/-- What is found at the path of a log. -/
inductive LogState where
  | absent
  | unreadable (error : SystemError)
  | present (data : Bytes)
deriving Repr

/-- A log that was looked for and not found. -/
structure MissingLog where
  runName : String
  runNumber : String
  benchmark : String
  path : Bytes
deriving DecidableEq, Repr, Inhabited

/-- What is said of a missing log. -/
def MissingLog.message (log : MissingLog) : String :=
  "Cannot find log file for " ++ log.runName ++ " run " ++ log.runNumber ++ " benchmark " ++
    log.benchmark ++ "."

/-- What a scan gives: the buckets, the logs that were not found in the order of the scan, and how
many folders were scanned. -/
structure Collection where
  store : Store
  missing : List MissingLog
  folders : Nat
deriving Repr, Inhabited

/-- Why a collection fails. -/
inductive CollectError where
  | plan (error : PlanError)
  | log (path : Bytes) (error : SystemError)
deriving DecidableEq, Repr

namespace CollectError

/-- The text of an error and of each of its causes, the outermost first. -/
def chain : CollectError → List String
  | .plan (.inputDirectory path e) =>
    ["cannot read input directory " ++ Text.display path ++ ": " ++ e.message, e.message]
  | .plan (.notADirectory path) => ["input path is not a directory: " ++ Text.display path]
  | .plan (.walk e) =>
    ("failed to list run folders: " ++ e.message) :: e.message ::
      match e with
      | .entry _ cause => [cause.message]
      | .loop _ _ => []
  | .log path e =>
    ["failed to read log file " ++ Text.display path ++ ": " ++ e.message, e.message]

/-- The text of an error. -/
def message (e : CollectError) : String := e.chain.headD ""

end CollectError

/-- A line without the line feeds and carriage returns at its end. -/
def trimLineEnd (line : List Char) : List Char :=
  Text.dropEndWhile (fun c => c == '\n' || c == '\r') line

namespace Collector

/-- Whether a kernel does not count. -/
def ignores (c : Collector) (kernel : String) : Bool := c.ignoredKernels.contains kernel

/-- The value that a line adds: that of its sample, if its kernel counts. -/
def counted? (c : Collector) (line : List Char) : Option UInt32 :=
  (c.rule.parse line).bind fun sample =>
    if c.ignores sample.kernel then none else some sample.value

/-- Count a line into a bucket. A value that the bucket cannot take is passed over. -/
def scanLine (c : Collector) (bucket : Bucket) (line : Bytes) : Bucket :=
  match c.counted? (trimLineEnd (Text.decodeLossy line)) with
  | some value => bucket.record value
  | none => bucket

/-- The bucket of one log. -/
def scan (c : Collector) (log : Bytes) : Bucket :=
  (Text.lines log).foldl c.scanLine .empty

/-- The note that a log of a folder is missing. -/
def missingLog (run : RunFolder) (benchmark : String) : MissingLog :=
  ⟨run.runName, run.runNumber, benchmark, run.logPath benchmark⟩

/-- Scan the log of one benchmark in one folder and merge its bucket in. A bucket that the totals
cannot take is passed over. -/
def collectLog (c : Collector) (logs : Bytes → LogState) (run : RunFolder)
    (collection : Collection) (benchmark : String) : Except CollectError Collection :=
  let path := run.logPath benchmark
  match logs path with
  | .absent =>
    .ok { collection with missing := collection.missing ++ [missingLog run benchmark] }
  | .unreadable e => .error (.log path e)
  | .present data =>
    .ok { collection with
      store := collection.store.update run.runName benchmark (·.merge (c.scan data)) }

/-- Scan the logs of one folder. The run is there even if all its logs are missing. -/
def collectFolder (c : Collector) (logs : Bytes → LogState) (collection : Collection)
    (run : RunFolder) : Except CollectError Collection :=
  c.benchmarks.foldlM (c.collectLog logs run)
    { collection with
      store := collection.store.mention run.runName, folders := collection.folders + 1 }

/-- Scan the logs of every folder of a plan, in its order. -/
def collectPlan (c : Collector) (logs : Bytes → LogState) (plan : Plan) :
    Except CollectError Collection :=
  plan.folders.foldlM (c.collectFolder logs) ⟨.new c.benchmarks, [], 0⟩

end Collector

/-- What a tree has at the path of a log. -/
def FileTree.logState (tree : FileTree) (here : Location) (path : Bytes) : LogState :=
  if tree.isFile here path then
    match tree.read here path with
    | .ok contents => .present contents.text
    | .error e => .unreadable e
  else .absent

namespace Collector

/-- The bucket of the log at a path. -/
def scanLog (c : Collector) (tree : FileTree) (here : Location) (path : Bytes) :
    Except CollectError Bucket :=
  match tree.read here path with
  | .ok contents => .ok (c.scan contents.text)
  | .error e => .error (.log path e)

/-- Plan the scan of an input directory and scan it. -/
def collect (c : Collector) (tree : FileTree) (here : Location) (input : Bytes)
    (exclude : List String) : Except CollectError Collection := do
  let plan ← (Plan.ofTree tree here input exclude).mapError .plan
  c.collectPlan (tree.logState here) plan

end Collector
end Occupancy
