/-
Module: Occupancy.CommandLine.Run
Purpose: One run of the program, with what it prints and the files it leaves behind.
Main exports: Outcome, RunError, Effect, execute, dryRun, runArguments, runProgram
-/
import Occupancy.CommandLine.Arguments
import Occupancy.Console
import Occupancy.Report
import Occupancy.Settings
import Occupancy.Sheet.Layout

namespace Occupancy.CommandLine

/-!
A run is a function of the tree of files, the current directory, the arguments, the settings and the
time. It gives what is printed and the tree afterwards next to its result, so that a run that fails
still shows what it has done before.
-/

/-- What one run has produced: the collection, the summary of each run, the console report if it was
asked for, and the files that were written. -/
structure Outcome where
  collection : Collection
  runs : List RunSummary
  console : Option String
  spreadsheet : Option Bytes
  json : Option Bytes
deriving Repr

/-- Why a run fails. -/
inductive RunError where
  | settings (error : SettingsError)
  | rule (fault : RuleFault)
  | plan (error : PlanError)
  | collect (input : Bytes) (error : CollectError)
  | sheet (output : Bytes) (error : Sheet.SheetError)
  | sheetFile (output : Bytes) (error : SystemError)
  | report (path : Bytes) (error : SystemError)
deriving DecidableEq, Repr

/-- What is told of an error, the outermost cause first. -/
def RunError.chain : RunError → List Cause
  | .settings e => e.chain
  | .rule fault => .words "invalid [collect] pattern" :: Cause.ofRuleFault fault
  | .plan e => (CollectError.plan e).chain.map .words
  | .collect input e =>
    .words ("failed to collect occupancy from " ++ Text.display input) :: e.chain.map .words
  | .sheet output e =>
    .words ("failed to write spreadsheet " ++ Text.display output) :: .words e.message ::
      e.cause.toList.map .words
  | .sheetFile output e =>
    [.words ("failed to write spreadsheet " ++ Text.display output),
      .words ("spreadsheet error: " ++ e.message), .words e.message]
  | .report path e =>
    [.words ("failed to write JSON summary " ++ Text.display path),
      .words ("I/O error: " ++ e.message), .words e.message]

/-- What a run prints, the tree that it leaves behind, and what it comes to. -/
structure Effect (α : Type) where
  printed : String
  tree : FileTree
  result : Except RunError α

/-- Where a run begins: the files, the current directory, and the time. -/
structure Surroundings where
  tree : FileTree
  here : Location
  now : Timestamp
deriving Repr

/-- What is collected under the settings, with a rule. -/
def collector (settings : Settings) (rule : LineRule) : Collector :=
  ⟨settings.collect.benchmarks, settings.collect.ignoreKernels, rule⟩

/-- The folders and runs to leave out: those of the settings and those of the arguments. -/
def ignoredFolders (settings : Settings) (a : Arguments) : List String :=
  settings.collect.ignoreFolders ++ ignoreList a.ignore

/-- Write a workbook at its output path. Nothing is written unless all of it can be built. -/
def writeSheet (tree : FileTree) (here : Location) (runs : List RunSummary)
    (benchmarks : List String) (output : Bytes) : Except RunError (FileTree × Bytes) := do
  let cells ← (Sheet.workbook runs benchmarks).mapError (.sheet output)
  let path := Sheet.outputPath output
  let tree ← (tree.write here path (.workbook cells)).mapError (.sheetFile output)
  return (tree, path)

/-- Make the directories that a path leads through. -/
def makeParents (tree : FileTree) (here : Location) (path : Bytes) :
    FileTree × Except SystemError Unit :=
  match Path.parent? path with
  | some parent => tree.makeDirectories here parent
  | none => (tree, .ok ())

/-- Write the text of a report. Directories that were made for it stay even if it cannot be
written. -/
def writeReport (tree : FileTree) (here : Location) (report : Report) (path : Bytes) :
    FileTree × Except SystemError Unit :=
  match makeParents tree here path with
  | (tree, .error e) => (tree, .error e)
  | (tree, .ok ()) =>
    match tree.write here path (.bytes (Text.bytes report.text)) with
    | .error e => (tree, .error e)
    | .ok tree => (tree, .ok ())

/-- The spreadsheet step: the tree behind it, and the path if one was written. -/
def sheetStep (s : Surroundings) (a : Arguments) (settings : Settings) (runs : List RunSummary)
    (benchmarks : List String) : Except RunError (FileTree × Option Bytes) :=
  if a.disable then .ok (s.tree, none)
  else
    let output := a.output.getD (Path.ofString settings.output.spreadsheet)
    (writeSheet s.tree s.here runs benchmarks output).map fun (tree, path) => (tree, some path)

/-- The path of the report, if one is wanted. -/
def reportPath (a : Arguments) (settings : Settings) : Option Bytes :=
  a.json <|> settings.output.json.map Path.ofString

/-- The report step: the tree behind it, and whether it went well. -/
def reportStep (s : Surroundings) (a : Arguments) (settings : Settings) (tree : FileTree)
    (collection : Collection) : FileTree × Except RunError (Option Bytes) :=
  match reportPath a settings with
  | none => (tree, .ok none)
  | some path =>
    let (tree, result) :=
      writeReport tree s.here (.ofCollection collection a.input s.now) path
    (tree, (result.mapError (.report path)).map fun _ => some path)

/-- Collect under the settings. -/
def collectStep (s : Surroundings) (a : Arguments) (settings : Settings) :
    Except RunError Collection := do
  let rule ← (Settings.rule settings.collect).mapError .rule
  ((collector settings rule).collect s.tree s.here a.input (ignoredFolders settings a)).mapError
    (.collect a.input)

/-- Collect, print, and write every output. The console report comes first, then the spreadsheet,
then the report; each step is taken only if those before it went well. -/
def execute (s : Surroundings) (a : Arguments) (settings : Settings) : Effect Outcome :=
  match collectStep s a settings with
  | .error e => ⟨"", s.tree, .error e⟩
  | .ok collection =>
    let runs := summarize collection.store
    let console := if a.verbose then some (consoleReport runs) else none
    let printed := console.getD ""
    match sheetStep s a settings runs collection.store.benchmarks with
    | .error e => ⟨printed, s.tree, .error e⟩
    | .ok (tree, spreadsheet) =>
      let (tree, json) := reportStep s a settings tree collection
      ⟨printed, tree, json.map (⟨collection, runs, console, spreadsheet, ·⟩)⟩

/-- Print which folders would be scanned. -/
def dryRun (s : Surroundings) (a : Arguments) (settings : Settings) : Effect Unit :=
  match Plan.ofTree s.tree s.here a.input (ignoredFolders settings a) with
  | .error e => ⟨"", s.tree, .error (.plan e)⟩
  | .ok plan => ⟨plan.render a.input, s.tree, .ok ()⟩

/-- The settings: of the file that the arguments name, or else of the one that is found. -/
def settings (s : Surroundings) (a : Arguments) : Except SettingsError Settings :=
  match a.config with
  | some path => Settings.load s.tree s.here path
  | none => .ok ((Settings.discover s.tree s.here).getD .standard)

/-- One run with the arguments read. -/
def runArguments (s : Surroundings) (a : Arguments) : Effect Unit :=
  match settings s a with
  | .error e => ⟨"", s.tree, .error (.settings e)⟩
  | .ok settings =>
    if a.dryRun then dryRun s a settings
    else
      let effect := execute s a settings
      ⟨effect.printed, effect.tree, effect.result.map fun _ => ()⟩

/-- How the program ends: its status, what it prints, the tree that it leaves behind, and what it
tells of an error. -/
structure Ending where
  status : UInt8
  printed : String
  tree : FileTree
  told : List Cause

/-- One run of the program. Help and the version are answers; other arguments that are not understood
give status 2, and a run that fails gives status 1. -/
def runProgram (s : Surroundings) (arguments : List Bytes) : Ending :=
  match Arguments.parse arguments with
  | .error .help => ⟨0, helpText, s.tree, []⟩
  | .error .version => ⟨0, versionText, s.tree, []⟩
  | .error _ => ⟨2, "", s.tree, [.words "the arguments are not understood"]⟩
  | .ok a =>
    let effect := runArguments s a
    match effect.result with
    | .ok _ => ⟨0, effect.printed, effect.tree, []⟩
    | .error e => ⟨1, effect.printed, effect.tree, e.chain⟩

end Occupancy.CommandLine
