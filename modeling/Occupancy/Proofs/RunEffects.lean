/-
Module: Occupancy.Proofs.RunEffects
Purpose: What a run prints and leaves behind, whichever step of it fails.
Main exports: CommandLine.sheetPath, CommandLine.reportTarget, CommandLine.Outputs,
  CommandLine.Outputs.of_write, CommandLine.sheetStep_eq_ok_iff, CommandLine.reportStep_cases,
  execute_tells_effects
-/
import Occupancy.CommandLine.Run
import Occupancy.Proofs.CollectionReads
import Occupancy.Proofs.TreeChanges

namespace Occupancy.CommandLine

/-!
The steps of a run come one after the other: collect, print, write the spreadsheet, write the
report. Each of them is inverted once (`collectStep_of_rule`, `sheetStep_eq_ok_iff`,
`reportStep_cases`), so that what a step has done when a later one fails can be read off.

`Outputs` is what holds of the tree behind a run. It holds with a spreadsheet and no report once the
spreadsheet is written, is not disturbed by the directories that are made for the report, and holds
with the report once this is written. A report may be written to the path of the spreadsheet, and
then replaces it.
-/

/-- The path that is asked for as the output. -/
def sheetTarget (a : Arguments) (settings : Settings) : Bytes :=
  a.output.getD (Path.ofString settings.output.spreadsheet)

/-- The path of the spreadsheet, if one is wanted. -/
def sheetPath (a : Arguments) (settings : Settings) : Option Bytes :=
  if a.disable then none else some (Sheet.outputPath (sheetTarget a settings))

/-- The path of the report, if one is wanted: the one that the arguments name, and the one of the
settings if they name none. -/
def reportTarget (a : Arguments) (settings : Settings) : Option Bytes :=
  match a.json, settings.output.json with
  | some named, _ => some named
  | none, some configured => some (Path.ofString configured)
  | none, none => none

/-- The report goes where it is wanted. -/
theorem reportPath_eq_reportTarget (a : Arguments) (settings : Settings) :
    reportPath a settings = reportTarget a settings := by
  rw [reportPath, reportTarget]
  cases a.json with
  | some named => rfl
  | none => cases settings.output.json <;> rfl

/-- The bytes of the report on a collection. -/
def reportBytes (a : Arguments) (now : Timestamp) (collection : Collection) : Bytes :=
  Text.bytes (Report.ofCollection collection a.input now).text

/-- What a run has done to the files: those at the paths of the spreadsheet and of the report have
been written, each if there is such a path, and hold what they are to hold. -/
structure Outputs (s : Surroundings) (after : FileTree) (a : Arguments) (collection : Collection)
    (spreadsheet json : Option Bytes) : Prop where
  files : ∃ files,
    List.Forall₂ (fun path location => after.locate s.here path = .ok location)
      (spreadsheet.toList ++ json.toList) files ∧
    s.tree.Changes after files
  workbook : ∀ path, spreadsheet = some path →
    ∃ cells, Sheet.workbook (summarize collection.store) collection.store.benchmarks = .ok cells ∧
      (after.find s.here path = .ok (.file (.workbook cells)) ∨
        ∃ other, json = some other ∧ after.locate s.here other = after.locate s.here path)
  report : ∀ path, json = some path →
    after.find s.here path = .ok (.file (.bytes (reportBytes a s.now collection)))

section Steps

variable {s : Surroundings} {a : Arguments} {settings : Settings} {tree after : FileTree}
  {here : Location} {path : Bytes} {report : Report} {collection : Collection}
  {spreadsheet : Option Bytes}

theorem mapError_eq_ok_iff {ε φ α : Type} {result : Except ε α} {f : ε → φ} {value : α} :
    result.mapError f = .ok value ↔ result = .ok value := by
  cases result <;> simp [Except.mapError]

theorem collectStep_of_rule_error {fault : RuleFault}
    (rejected : Settings.rule settings.collect = .error fault) :
    collectStep s a settings = .error (.rule fault) := by
  rw [collectStep, rejected]
  rfl

theorem collectStep_of_rule {rule : LineRule}
    (accepted : Settings.rule settings.collect = .ok rule) :
    collectStep s a settings =
      ((collector settings rule).collect s.tree s.here a.input
        (ignoredFolders settings a)).mapError (.collect a.input) := by
  rw [collectStep, accepted]
  rfl

/-- A spreadsheet is not wanted, or all of it has been built and then written to its path. -/
theorem sheetStep_eq_ok_iff {runs : List RunSummary} {benchmarks : List String} :
    sheetStep s a settings runs benchmarks = .ok (after, spreadsheet) ↔
      (a.disable = true ∧ after = s.tree ∧ spreadsheet = none) ∨
      (a.disable = false ∧
        spreadsheet = some (Sheet.outputPath (sheetTarget a settings)) ∧
        ∃ cells, Sheet.workbook runs benchmarks = .ok cells ∧
          s.tree.write s.here (Sheet.outputPath (sheetTarget a settings)) (.workbook cells) =
            .ok after) := by
  rw [sheetStep, sheetTarget]
  cases a.disable with
  | true => simp [eq_comm]
  | false =>
      cases built : Sheet.workbook runs benchmarks with
      | error fault => simp [writeSheet, built, Except.mapError, Except.map, bind, Except.bind]
      | ok cells =>
          cases written : s.tree.write s.here
              (Sheet.outputPath (a.output.getD (Path.ofString settings.output.spreadsheet)))
              (.workbook cells) with
          | error fault =>
              simp [writeSheet, built, written, Except.mapError, Except.map, bind, Except.bind]
          | ok made =>
              simp [writeSheet, built, written, Except.mapError, Except.map, bind, Except.bind,
                pure, Except.pure, eq_comm, and_comm]

/-- A spreadsheet step fails because the workbook cannot be built or cannot be written. -/
theorem sheetStep_eq_error {runs : List RunSummary} {benchmarks : List String} {error : RunError}
    (failed : sheetStep s a settings runs benchmarks = .error error) :
    (∃ cause, Sheet.workbook runs benchmarks = .error cause ∧
        error = .sheet (sheetTarget a settings) cause) ∨
      ∃ fault, error = .sheetFile (sheetTarget a settings) fault := by
  rw [sheetStep] at failed
  split at failed
  · cases failed
  · simp only [writeSheet] at failed
    cases built : Sheet.workbook runs benchmarks with
    | error cause =>
        simp only [built, Except.mapError, Except.map, bind, Except.bind] at failed
        cases failed
        exact Or.inl ⟨cause, rfl, rfl⟩
    | ok cells =>
        cases written : s.tree.write s.here (Sheet.outputPath (sheetTarget a settings))
            (.workbook cells) with
        | error fault =>
            rw [sheetTarget] at written
            simp only [built, written, Except.mapError, Except.map, bind, Except.bind] at failed
            cases failed
            exact Or.inr ⟨fault, rfl⟩
        | ok made =>
            rw [sheetTarget] at written
            simp only [built, written, Except.mapError, Except.map, bind, Except.bind] at failed
            cases failed

theorem sheetStep_of_workbook_error {runs : List RunSummary} {benchmarks : List String}
    {error : Sheet.SheetError} (wanted : a.disable = false)
    (refused : Sheet.workbook runs benchmarks = .error error) :
    sheetStep s a settings runs benchmarks = .error (.sheet (sheetTarget a settings) error) := by
  simp [sheetStep, wanted, writeSheet, refused, sheetTarget, Except.mapError, Except.map, bind,
    Except.bind]

theorem sheetPath_of_sheetStep {runs : List RunSummary} {benchmarks : List String}
    (done : sheetStep s a settings runs benchmarks = .ok (after, spreadsheet)) :
    spreadsheet = sheetPath a settings := by
  rw [sheetPath]
  rcases sheetStep_eq_ok_iff.mp done with ⟨off, -, rfl⟩ | ⟨on, rfl, -⟩
  · rw [if_pos off]
  · rw [if_neg (by simp [on])]

/-- Besides the spreadsheet nothing changes before the report. -/
theorem lookup_of_sheetStep {runs : List RunSummary} {benchmarks : List String}
    (done : sheetStep s a settings runs benchmarks = .ok (after, spreadsheet)) {location : Location}
    (elsewhere : ∀ path, spreadsheet = some path → after.locate s.here path ≠ .ok location) :
    after.lookup location = s.tree.lookup location := by
  rcases sheetStep_eq_ok_iff.mp done with ⟨-, rfl, -⟩ | ⟨-, rfl, cells, -, written⟩
  · rfl
  · rcases FileTree.exists_of_write written with ⟨other, below, rfl, -, located, -⟩
    rw [FileTree.lookup_put _ _ below, if_neg]
    rintro rfl
    exact elsewhere _ rfl located

theorem changes_makeParents (tree : FileTree) (here : Location) (path : Bytes) :
    tree.Changes (makeParents tree here path).1 [] := by
  rw [makeParents]
  cases Path.parent? path with
  | none => exact .refl tree
  | some parent => exact tree.changes_makeDirectoriesFrom here _ parent

theorem writeReport_eq_ok_iff :
    writeReport tree here report path = (after, .ok ()) ↔
      ∃ made, makeParents tree here path = (made, .ok ()) ∧
        made.write here path (.bytes (Text.bytes report.text)) = .ok after := by
  rw [writeReport]
  rcases makeParents tree here path with ⟨made, outcome⟩
  cases outcome with
  | error fault => simp
  | ok done =>
      cases written : made.write here path (.bytes (Text.bytes report.text)) <;> simp [written]

/-- A report that cannot be written leaves directories behind at the most. -/
theorem changes_of_writeReport_error {fault : SystemError}
    (failed : writeReport tree here report path = (after, .error fault)) :
    tree.Changes after [] := by
  have changes := changes_makeParents tree here path
  rw [writeReport] at failed
  rcases made : makeParents tree here path with ⟨between, outcome⟩
  rw [made] at changes failed
  cases outcome with
  | error stopped =>
      cases failed
      exact changes
  | ok done =>
      cases written : between.write here path (.bytes (Text.bytes report.text)) with
      | error stopped =>
          simp only [written] at failed
          cases failed
          exact changes
      | ok other =>
          simp only [written] at failed
          cases failed

/-- The report step does nothing, or writes the report, or leaves directories behind and fails. -/
theorem reportStep_cases (s : Surroundings) (a : Arguments) (settings : Settings) (tree : FileTree)
    (collection : Collection) :
    (reportTarget a settings = none ∧
        reportStep s a settings tree collection = (tree, .ok none)) ∨
      ∃ path after, reportTarget a settings = some path ∧
        ((writeReport tree s.here (.ofCollection collection a.input s.now) path = (after, .ok ()) ∧
            reportStep s a settings tree collection = (after, .ok (some path))) ∨
          ∃ fault, tree.Changes after [] ∧
            reportStep s a settings tree collection = (after, .error (.report path fault))) := by
  rw [reportStep, reportPath_eq_reportTarget]
  cases reportTarget a settings with
  | none => exact Or.inl ⟨rfl, rfl⟩
  | some path =>
      right
      rcases written : writeReport tree s.here (.ofCollection collection a.input s.now) path with
        ⟨after, outcome⟩
      refine ⟨path, after, rfl, ?_⟩
      cases outcome with
      | ok done => exact Or.inl ⟨written, by simp only [written]; rfl⟩
      | error fault =>
          exact Or.inr ⟨fault, changes_of_writeReport_error written, by simp only [written]; rfl⟩

end Steps

namespace Outputs

variable {s : Surroundings} {a : Arguments} {settings : Settings} {tree after : FileTree}
  {collection : Collection} {spreadsheet : Option Bytes} {path : Bytes}

/-- The tree behind the spreadsheet step. -/
theorem of_sheetStep
    (done : sheetStep s a settings (summarize collection.store) collection.store.benchmarks =
      .ok (after, spreadsheet)) :
    Outputs s after a collection spreadsheet none := by
  rcases sheetStep_eq_ok_iff.mp done with ⟨-, rfl, rfl⟩ | ⟨-, rfl, cells, built, written⟩
  · exact ⟨⟨[], .nil, .refl _⟩, by simp, by simp⟩
  · rcases FileTree.exists_of_write written with ⟨location, below, rfl, changes, located, -⟩
    have there := s.tree.lookup_put (.file (.workbook cells)) below location
    refine ⟨⟨[location], .cons located .nil, changes⟩, ?_, by simp⟩
    intro path same
    cases same
    rw [if_pos rfl] at there
    exact ⟨cells, built, Or.inl (FileTree.find_eq_ok_iff.mpr ⟨location, located, there⟩)⟩

/-- Directories do not matter to what has been written. -/
theorem of_changes (outputs : Outputs s tree a collection spreadsheet none)
    (changes : tree.Changes after []) : Outputs s after a collection spreadsheet none where
  files := by
    rcases outputs.files with ⟨files, located, before⟩
    refine ⟨files, ?_, by simpa using before.trans changes⟩
    exact located.imp fun _ _ => FileTree.locate_of_retains changes.retains
  workbook := by
    intro path same
    rcases outputs.workbook path same with ⟨cells, built, found | ⟨other, none, -⟩⟩
    · rcases FileTree.find_eq_ok_iff.mp found with ⟨location, located, there⟩
      refine ⟨cells, built, Or.inl (FileTree.find_eq_ok_iff.mpr ⟨location, ?_, ?_⟩)⟩
      · exact FileTree.locate_of_retains changes.retains located
      · exact changes.kept location (by simp) _ there
    · cases none
  report := by simp

/-- The tree behind the report. -/
theorem of_write (outputs : Outputs s tree a collection spreadsheet none)
    (written : tree.write s.here path (.bytes (reportBytes a s.now collection)) = .ok after) :
    Outputs s after a collection spreadsheet (some path) := by
  rcases FileTree.exists_of_write written with ⟨location, below, rfl, changes, located, -⟩
  have there := tree.lookup_put (.file (.bytes (reportBytes a s.now collection))) below
  have persists (path : Bytes) (other : Location) (leads : tree.locate s.here path = .ok other) :=
    FileTree.locate_of_retains changes.retains leads
  refine ⟨?_, ?_, ?_⟩
  · rcases outputs.files with ⟨files, before, beforeChanges⟩
    refine ⟨files ++ [location], ?_, beforeChanges.trans changes⟩
    rw [Option.toList_none, List.append_nil] at before
    exact List.rel_append (before.imp persists) (.cons located .nil)
  · intro sheet same
    rcases outputs.workbook sheet same with ⟨cells, built, found | ⟨other, none, -⟩⟩
    · refine ⟨cells, built, ?_⟩
      rcases FileTree.find_eq_ok_iff.mp found with ⟨place, leads, stands⟩
      by_cases replaced : place = location
      · exact Or.inr ⟨path, rfl, by rw [located, persists _ _ leads, replaced]⟩
      · left
        rw [FileTree.find_eq_ok_iff]
        exact ⟨place, persists _ _ leads, by rw [there, if_neg replaced, stands]⟩
    · cases none
  · intro other same
    cases same
    exact FileTree.find_eq_ok_iff.mpr ⟨location, located, by rw [there, if_pos rfl]⟩

end Outputs

section Inversion

variable {s : Surroundings} {a : Arguments} {settings : Settings} {collection : Collection}

/-- A run whose collection succeeds ends with the spreadsheet step if this fails, and else with the
report step. -/
theorem execute_of_collectStep (collected : collectStep s a settings = .ok collection) :
    let runs := summarize collection.store
    let console := if a.verbose then some (consoleReport runs) else none
    (∃ error, sheetStep s a settings runs collection.store.benchmarks = .error error ∧
        execute s a settings = ⟨console.getD "", s.tree, .error error⟩) ∨
      ∃ tree, sheetStep s a settings runs collection.store.benchmarks =
          .ok (tree, sheetPath a settings) ∧
        execute s a settings =
          ⟨console.getD "", (reportStep s a settings tree collection).1,
            (reportStep s a settings tree collection).2.map
              (⟨collection, runs, console, sheetPath a settings, ·⟩)⟩ := by
  intro runs console
  rw [execute, collected]
  cases done : sheetStep s a settings runs collection.store.benchmarks with
  | error error =>
      simp only [runs] at done
      exact Or.inl ⟨error, rfl, by simp only [done]; rfl⟩
  | ok written =>
      rcases written with ⟨tree, spreadsheet⟩
      obtain rfl := sheetPath_of_sheetStep done
      simp only [runs] at done
      exact Or.inr ⟨tree, rfl, by simp only [done]; rfl⟩

/-- Behind the spreadsheet the report step decides. -/
theorem execute_of_sheetStep {tree : FileTree} {spreadsheet : Option Bytes}
    (collected : collectStep s a settings = .ok collection)
    (written : sheetStep s a settings (summarize collection.store) collection.store.benchmarks =
      .ok (tree, spreadsheet)) :
    (execute s a settings).tree = (reportStep s a settings tree collection).1 ∧
      (execute s a settings).result =
        (reportStep s a settings tree collection).2.map
          (⟨collection, summarize collection.store,
            if a.verbose then some (consoleReport (summarize collection.store)) else none,
            sheetPath a settings, ·⟩) := by
  rcases execute_of_collectStep collected with ⟨error, failed, -⟩ | ⟨other, alsoWritten, ended⟩
  · cases written.symm.trans failed
  · cases written.symm.trans alsoWritten
    rw [ended]
    exact ⟨rfl, rfl⟩

theorem printed_of_collectStep (collected : collectStep s a settings = .ok collection) :
    (execute s a settings).printed =
      if a.verbose then consoleReport (summarize collection.store) else "" := by
  rcases execute_of_collectStep collected with ⟨error, -, ran⟩ | ⟨tree, -, ran⟩
  · rw [ran]
    cases a.verbose <;> rfl
  · rw [ran]
    cases a.verbose <;> rfl

/-- A run that comes to something has written all that is wanted. -/
theorem execute_eq_ok {outcome : Outcome} (collected : collectStep s a settings = .ok collection)
    (ran : (execute s a settings).result = .ok outcome) :
    let runs := summarize collection.store
    outcome = ⟨collection, runs, if a.verbose then some (consoleReport runs) else none,
        sheetPath a settings, reportTarget a settings⟩ ∧
      ∃ tree, sheetStep s a settings runs collection.store.benchmarks =
          .ok (tree, sheetPath a settings) ∧
        ((reportTarget a settings = none ∧ (execute s a settings).tree = tree) ∨
          ∃ path, reportTarget a settings = some path ∧
            writeReport tree s.here (.ofCollection collection a.input s.now) path =
              ((execute s a settings).tree, .ok ())) := by
  intro runs
  rcases execute_of_collectStep collected with ⟨error, -, ended⟩ | ⟨tree, written, ended⟩
  · rw [ended] at ran
    cases ran
  · rw [ended] at ran ⊢
    rcases reportStep_cases s a settings tree collection with
      ⟨unwanted, reported⟩ | ⟨path, after, wanted, ⟨writes, reported⟩ | ⟨fault, -, reported⟩⟩
    · rw [reported] at ran ⊢
      cases ran
      exact ⟨by rw [unwanted], tree, written, Or.inl ⟨unwanted, rfl⟩⟩
    · rw [reported] at ran ⊢
      cases ran
      exact ⟨by rw [wanted], tree, written, Or.inr ⟨path, wanted, writes⟩⟩
    · rw [reported] at ran
      cases ran

theorem outputs_of_execute {outcome : Outcome}
    (collected : collectStep s a settings = .ok collection)
    (ran : (execute s a settings).result = .ok outcome) :
    Outputs s (execute s a settings).tree a collection (sheetPath a settings)
      (reportTarget a settings) := by
  rcases (execute_eq_ok collected ran).2 with
    ⟨tree, written, ⟨unwanted, same⟩ | ⟨path, wanted, writes⟩⟩
  · rw [same, unwanted]
    exact .of_sheetStep written
  · rcases writeReport_eq_ok_iff.mp writes with ⟨made, parents, puts⟩
    have directories := changes_makeParents tree s.here path
    rw [parents] at directories
    rw [wanted]
    exact ((Outputs.of_sheetStep written).of_changes directories).of_write puts

/-- A run that ends with its report has only made directories behind the spreadsheet. -/
theorem execute_eq_report_error {path : Bytes} {fault : SystemError}
    (collected : collectStep s a settings = .ok collection)
    (failed : (execute s a settings).result = .error (.report path fault)) :
    reportTarget a settings = some path ∧
      ∃ tree, sheetStep s a settings (summarize collection.store) collection.store.benchmarks =
          .ok (tree, sheetPath a settings) ∧
        tree.Changes (execute s a settings).tree [] := by
  rcases execute_of_collectStep collected with ⟨error, stopped, ended⟩ | ⟨tree, written, ended⟩
  · rw [ended] at failed
    cases failed
    rcases sheetStep_eq_error stopped with ⟨cause, -, other⟩ | ⟨cause, other⟩
    · cases other
    · cases other
  · rw [ended] at failed ⊢
    rcases reportStep_cases s a settings tree collection with
      ⟨-, reported⟩ | ⟨other, after, wanted, ⟨-, reported⟩ | ⟨cause, changes, reported⟩⟩
    · rw [reported] at failed
      cases failed
    · rw [reported] at failed
      cases failed
    · rw [reported] at failed ⊢
      cases failed
      exact ⟨wanted, tree, written, changes⟩

/-- A run that ends before its report leaves the tree as it was. -/
theorem tree_of_early_error {error : RunError}
    (collected : collectStep s a settings = .ok collection)
    (failed : (execute s a settings).result = .error error)
    (early : ∀ path fault, error ≠ .report path fault) :
    (execute s a settings).tree = s.tree := by
  rcases execute_of_collectStep collected with ⟨stop, -, ended⟩ | ⟨tree, -, ended⟩
  · rw [ended]
  · rw [ended] at failed
    rcases reportStep_cases s a settings tree collection with
      ⟨-, reported⟩ | ⟨path, after, -, ⟨-, reported⟩ | ⟨fault, -, reported⟩⟩
    · rw [reported] at failed
      cases failed
    · rw [reported] at failed
      cases failed
    · rw [reported] at failed
      cases failed
      exact absurd rfl (early path fault)

/-- A workbook that cannot be built ends the run. -/
theorem execute_of_workbook_error {error : Sheet.SheetError}
    (collected : collectStep s a settings = .ok collection) (wanted : a.disable = false)
    (refused : Sheet.workbook (summarize collection.store) collection.store.benchmarks =
      .error error) :
    (execute s a settings).tree = s.tree ∧
      (execute s a settings).result = .error (.sheet (sheetTarget a settings) error) := by
  have stops := @sheetStep_of_workbook_error s a settings _ _ _ wanted refused
  rcases execute_of_collectStep collected with ⟨stop, failed, ended⟩ | ⟨tree, written, -⟩
  · cases failed.symm.trans stops
    rw [ended]
    exact ⟨rfl, rfl⟩
  · cases written.symm.trans stops

end Inversion

end Occupancy.CommandLine

namespace Occupancy

open CommandLine in
/-- What a run prints, and what it leaves behind. If the pattern is rejected or the collection
fails, nothing is printed and no file is touched. Otherwise the console report is printed if it is
asked for, whatever comes later. A spreadsheet that cannot be built ends the run, and whatever ends
it before the report leaves the tree as it was. If the report fails, the spreadsheet is written, and
besides it there are at the most directories that have been made. If nothing fails, the files that
have been written are exactly those at the paths that the run comes to, which are the wanted ones,
and they hold the workbook and the report; unless a report is written, nothing else has changed. -/
theorem execute_tells_effects (s : Surroundings) (a : Arguments) (settings : Settings) :
    let effect := execute s a settings
    (∀ fault, Settings.rule settings.collect = .error fault →
      effect = ⟨"", s.tree, .error (.rule fault)⟩) ∧
    ∀ rule, Settings.rule settings.collect = .ok rule →
      (∀ error, (collector settings rule).collect s.tree s.here a.input
            (ignoredFolders settings a) = .error error →
        effect = ⟨"", s.tree, .error (.collect a.input error)⟩) ∧
      ∀ collection, (collector settings rule).collect s.tree s.here a.input
          (ignoredFolders settings a) = .ok collection →
        let runs := summarize collection.store
        effect.printed = (if a.verbose then consoleReport runs else "") ∧
        (∀ error, a.disable = false →
          Sheet.workbook runs collection.store.benchmarks = .error error →
          effect.tree = s.tree ∧
            effect.result = .error (.sheet (sheetTarget a settings) error)) ∧
        (∀ error, effect.result = .error error →
          (∀ path fault, error ≠ .report path fault) → effect.tree = s.tree) ∧
        (∀ path fault, effect.result = .error (.report path fault) →
          reportTarget a settings = some path ∧
            Outputs s effect.tree a collection (sheetPath a settings) none) ∧
        ∀ outcome, effect.result = .ok outcome →
          outcome.collection = collection ∧ outcome.runs = runs ∧
          outcome.console = (if a.verbose then some (consoleReport runs) else none) ∧
          outcome.spreadsheet = sheetPath a settings ∧
          outcome.json = reportTarget a settings ∧
          Outputs s effect.tree a collection outcome.spreadsheet outcome.json ∧
          (outcome.json = none → ∀ location,
            (∀ path, outcome.spreadsheet = some path →
              effect.tree.locate s.here path ≠ .ok location) →
            effect.tree.lookup location = s.tree.lookup location) := by
  intro effect
  refine ⟨?_, ?_⟩
  · intro fault rejected
    simp only [effect, execute, collectStep_of_rule_error rejected]
  intro rule accepted
  refine ⟨?_, ?_⟩
  · intro error failed
    simp only [effect, execute, collectStep_of_rule accepted, failed, Except.mapError]
  intro collection collects runs
  have collected : collectStep s a settings = .ok collection := by
    rw [collectStep_of_rule accepted, collects]
    rfl
  refine ⟨printed_of_collectStep collected, ?_, ?_, ?_, ?_⟩
  · intro error wanted refused
    exact execute_of_workbook_error collected wanted refused
  · intro error failed early
    exact tree_of_early_error collected failed early
  · intro path fault failed
    rcases execute_eq_report_error collected failed with ⟨wanted, tree, written, changes⟩
    exact ⟨wanted, (Outputs.of_sheetStep written).of_changes changes⟩
  · intro outcome ran
    have outputs := outputs_of_execute collected ran
    rcases execute_eq_ok collected ran with ⟨rfl, tree, written, last⟩
    refine ⟨rfl, rfl, rfl, rfl, rfl, outputs, ?_⟩
    intro unreported location elsewhere
    rcases last with ⟨-, same⟩ | ⟨path, wanted, -⟩
    · simp only [effect, same] at elsewhere ⊢
      exact lookup_of_sheetStep written elsewhere
    · cases wanted.symm.trans unreported

/-- A directory with one run, whose log has one sample. -/
def oneRun : FileTree :=
  ⟨[([Path.ofString "a-1"], .directory),
    ([Path.ofString "a-1", Path.ofString "vgg16"], .directory),
    ([Path.ofString "a-1", Path.ofString "vgg16", Path.ofString "vgg16.log"],
      .file (.bytes (Text.bytes "Final occupancy for function gemm:50\n")))]⟩

/-- The arguments for a run in the current directory that writes a report to a path, with the
spreadsheet or without it. -/
def reportTo (path : String) (disable : Bool) : CommandLine.Arguments :=
  ⟨false, none, disable, Path.ofString ".", "", some (Path.ofString path), none, false⟩

/-- The settings with a single benchmark. -/
def oneBenchmark : Settings :=
  { Settings.standard with collect := { Settings.standardCollect with benchmarks := ["vgg16"] } }

/-- The settings with a single benchmark that has no log in the directory. -/
def otherBenchmark : Settings :=
  { Settings.standard with collect := { Settings.standardCollect with benchmarks := ["vgg19"] } }

section OneRun

open CommandLine

/-- What is collected in the current directory under these settings. -/
theorem collectStep_of_planned {s : Surroundings} {path : String} {disable : Bool} {plan : Plan}
    (planned : Plan.ofTree s.tree s.here (Path.ofString ".") [] = .ok plan) :
    collectStep s (reportTo path disable) oneBenchmark =
      ((collector oneBenchmark .standard).collectPlan (s.tree.logState s.here) plan).mapError
        (.collect (Path.ofString ".")) := by
  have accepted : Settings.rule oneBenchmark.collect = .ok .standard := rfl
  rw [collectStep_of_rule accepted]
  exact congrArg _ (Collector.collect_eq_of_ofTree planned)

theorem oneRun_planned :
    Plan.ofTree oneRun [] (Path.ofString ".") [] =
      .ok ⟨[.ofFolder (Path.ofString "./a-1") "a-1"], []⟩ := by
  cbv

set_option maxRecDepth 10000 in
/-- A report that would take the place of a directory fails behind the spreadsheet, which is there.
One that goes to a directory of its own is written beside it. With a benchmark that has no logs there
is nothing to put into a spreadsheet, and no report either. -/
theorem execute_tells_effects_oneRun :
    let s : Surroundings := ⟨oneRun, [], ⟨0, 0⟩⟩
    let failing := reportTo "a-1" false
    let writing := reportTo "out/summary.json" false
    let sheet := Path.ofString "occupancy.xlsx"
    let report := Path.ofString "out/summary.json"
    ∃ collection,
      (execute s failing oneBenchmark).result =
        .error (.report (Path.ofString "a-1") .isADirectory) ∧
      Outputs s (execute s failing oneBenchmark).tree failing collection (some sheet) none ∧
      ∃ outcome, (execute s writing oneBenchmark).result = .ok outcome ∧
        outcome.spreadsheet = some sheet ∧ outcome.json = some report ∧
        Outputs s (execute s writing oneBenchmark).tree writing collection (some sheet)
          (some report) ∧
        (execute s writing otherBenchmark).tree = oneRun ∧
        (execute s writing otherBenchmark).result =
          .error (.sheet (Path.ofString "occupancy") (.layout (.noKernels "a"))) := by
  intro s failing writing sheet report
  have accepted : Settings.rule oneBenchmark.collect = .ok .standard := rfl
  obtain ⟨collection, collects⟩ : ∃ collection,
      (collector oneBenchmark .standard).collect oneRun [] (Path.ofString ".") [] =
        .ok collection := by
    rw [Collector.collect_eq_of_ofTree oneRun_planned]
    exact ⟨_, rfl⟩
  have fails : (execute s failing oneBenchmark).result =
      .error (.report (Path.ofString "a-1") .isADirectory) := by
    rw [execute, collectStep_of_planned oneRun_planned]
    rfl
  obtain ⟨outcome, writes⟩ : ∃ outcome, (execute s writing oneBenchmark).result = .ok outcome := by
    rw [execute, collectStep_of_planned oneRun_planned]
    exact ⟨_, rfl⟩
  obtain ⟨-, -, -, reportFails, -⟩ :=
    ((execute_tells_effects s failing oneBenchmark).2 _ accepted).2 collection collects
  obtain ⟨-, -, -, -, succeeds⟩ :=
    ((execute_tells_effects s writing oneBenchmark).2 _ accepted).2 collection collects
  obtain ⟨-, -, -, sheetTold, reportTold, outputs, -⟩ := succeeds outcome writes
  have sheetThere : outcome.spreadsheet = some sheet := sheetTold
  have reportThere : outcome.json = some report := reportTold
  rw [sheetThere, reportThere] at outputs
  obtain ⟨blank, collectsBlank, refused⟩ : ∃ blank,
      (collector otherBenchmark .standard).collect oneRun [] (Path.ofString ".") [] = .ok blank ∧
      Sheet.workbook (summarize blank.store) blank.store.benchmarks =
        .error (.layout (.noKernels "a")) := by
    rw [Collector.collect_eq_of_ofTree oneRun_planned]
    exact ⟨_, rfl, rfl⟩
  obtain ⟨-, unbuilt, -⟩ :=
    ((execute_tells_effects s writing otherBenchmark).2 .standard rfl).2 blank collectsBlank
  exact ⟨collection, fails, (reportFails _ _ fails).2, outcome, writes, sheetThere, reportThere,
    outputs, unbuilt _ rfl refused⟩

end OneRun

end Occupancy
