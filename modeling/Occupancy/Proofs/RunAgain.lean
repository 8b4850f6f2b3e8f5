/-
Module: Occupancy.Proofs.RunAgain
Purpose: When a run leaves its own input as it was, so that the same run can be made again.
Main exports: CommandLine.SparesInput, CommandLine.collect_again, CommandLine.writeReport_again,
  execute_again
-/
import Occupancy.Proofs.Noninterference
import Occupancy.Proofs.PlanText
import Occupancy.Proofs.RunEffects

namespace Occupancy

/-!
The outputs of a run are part of the tree that the next run reads. Two things that a run does can be
noticed by the next one: a directory that is made for the report may stand in the input directory,
where it is one more folder to scan; and the path of a log may lead to an output, or through a
directory that has only now been made. `SparesInput` rules out both, and nothing else matters.

Links need no condition of their own: a run makes none, and one that led somewhere leads there
still. Nor does a log that is not found have to be looked after, as long as it stays so.
-/

namespace FileTree.Changes

variable {tree after : FileTree} {files : List Location} {here root : Location}
  {input name : Bytes}

theorem inputDirectory (changes : tree.Changes after files)
    (inside : tree.InputDirectory here input root) : after.InputDirectory here input root :=
  ⟨locate_of_retains changes.retains inside.located, changes.retains.directory inside.directory⟩

/-- An entry that is a directory stays one. -/
theorem hasEntry_directory (changes : tree.Changes after files)
    (entry : tree.HasEntry here input name .directory) :
    after.HasEntry here input name .directory := by
  cases entry with
  | itself located there plain =>
      exact .itself (locate_of_retains changes.retains located) (changes.retains.directory there)
        plain
  | followed located there found =>
      rcases changes.retains _ _ there with ⟨node, still, same⟩
      obtain rfl := Node.form_eq_link_iff.mp same
      exact .followed (locate_of_retains changes.retains located) still
        (find_directory_of_retains changes.retains found)

/-- A link that was not faulty does not become so. -/
theorem not_linkFault (changes : tree.Changes after files)
    (sound : ∀ fault, ¬tree.LinkFault here input root name fault) (fault : WalkError) :
    ¬after.LinkFault here input root name fault := by
  revert fault
  rw [forall_not_linkFault_iff] at sound ⊢
  intro target there
  rcases sound target (changes.link_of_link there) with ⟨location, located, ahead⟩
  exact ⟨location, locate_of_retains changes.retains located, ahead⟩

/-- A log is in the same state unless it is there and its path leads through something else than
before. -/
theorem logState_eq {path : Bytes} (changes : tree.Changes after files)
    (avoids : ∀ contents, after.find here path = .ok (.file contents) →
      after.Avoids here path fun location => after.lookup location ≠ tree.lookup location) :
    after.logState here path = tree.logState here path := by
  by_cases there : ∃ contents, after.find here path = .ok (.file contents)
  · rcases there with ⟨contents, found⟩
    have same : tree.find here path = after.find here path :=
      (avoids contents found).find_eq fun location unchanged => (not_not.mp unchanged).symm
    exact logState_congr same.symm
  · rw [not_exists] at there
    rw [logState_eq_absent_iff.mpr there, eq_comm, logState_eq_absent_iff]
    intro contents found
    rcases find_of_retains changes.retains found with ⟨node, still, same⟩
    rcases Node.form_eq_file_iff.mp same with ⟨other, rfl⟩
    exact there other still

end FileTree.Changes

/-- Two plans have the same folders if each name that only one of them has is left out. -/
theorem Plan.folders_ofNames_eq {input : Bytes} {exclude : List String} {names others : List Bytes}
    (ascending : names.Pairwise (· < ·)) (othersAscending : others.Pairwise (· < ·))
    (same : ∀ name, ¬Excludes exclude (Text.display name) → (name ∈ others ↔ name ∈ names)) :
    (ofNames input exclude others).folders = (ofNames input exclude names).folders := by
  have filtered : (others.filter fun name => ¬Excludes exclude (Text.display name)) =
      names.filter fun name => ¬Excludes exclude (Text.display name) := by
    apply (othersAscending.filter _).eq_of_mem_iff (ascending.filter _)
    intro name
    simp only [List.mem_filter, decide_eq_true_eq]
    exact and_congr_left fun kept => same name kept
  rw [ofNames, ofNames]
  exact congrArg (List.map (RunFolder.ofEntry input)) filtered

namespace CommandLine

/-- What a run has to leave alone in its input: every directory that the input directory has behind
the run and not before is left out by name, and the path of a log that is there behind the run leads
through nothing that the run has made or changed. -/
structure SparesInput (s : Surroundings) (after : FileTree) (a : Arguments) (settings : Settings) :
    Prop where
  folders : ∀ name, after.HasEntry s.here a.input name .directory →
    s.tree.HasEntry s.here a.input name .directory ∨
      Excludes (ignoredFolders settings a) (Text.display name)
  logs : ∀ plan, Plan.ofTree s.tree s.here a.input (ignoredFolders settings a) = .ok plan →
    ∀ visit ∈ plan.visits settings.collect.benchmarks, ∀ contents,
      after.find s.here visit.path = .ok (.file contents) →
      after.Avoids s.here visit.path fun location =>
        after.lookup location ≠ s.tree.lookup location

section Again

variable {s : Surroundings} {a : Arguments} {settings : Settings} {tree after again : FileTree}
  {here : Location} {path : Bytes} {report : Report} {collection : Collection}
  {spreadsheet : Option Bytes}

/-- The plan of the tree behind a run has the same folders. -/
theorem SparesInput.exists_plan {plan : Plan} {files : List Location}
    (spares : SparesInput s after a settings) (distinct : s.tree.Distinct)
    (afterDistinct : after.Distinct) (changes : s.tree.Changes after files)
    (planned : Plan.ofTree s.tree s.here a.input (ignoredFolders settings a) = .ok plan) :
    ∃ later, Plan.ofTree after s.here a.input (ignoredFolders settings a) = .ok later ∧
      later.folders = plan.folders := by
  rcases (Plan.ofTree_eq_ok_iff distinct).mp planned with
    ⟨root, names, inside, sound, ascending, members, rfl⟩
  have stillInside := changes.inputDirectory inside
  have stillSound (name : Bytes) := changes.not_linkFault (sound name)
  have othersAscending := afterDistinct.folderNames_ascending s.here a.input root
  have otherMembers (name : Bytes) := stillInside.mem_folderNames_iff (stillSound name)
  refine ⟨_, (Plan.ofTree_eq_ok_iff afterDistinct).mpr ⟨root, _, stillInside, stillSound,
    othersAscending, otherMembers, rfl⟩, ?_⟩
  apply Plan.folders_ofNames_eq ascending othersAscending
  intro name kept
  rw [otherMembers, members]
  constructor
  · intro entry
    exact (spares.folders name entry).resolve_right kept
  · exact changes.hasEntry_directory

/-- The same is collected from the tree behind a run. -/
theorem collect_again {files : List Location} {later : Timestamp}
    (spares : SparesInput s after a settings) (distinct : s.tree.Distinct)
    (afterDistinct : after.Distinct) (changes : s.tree.Changes after files)
    (collected : collectStep s a settings = .ok collection) :
    collectStep { s with tree := after, now := later } a settings = .ok collection := by
  rcases bind_eq_ok_iff.mp collected with ⟨rule, mapped, collects⟩
  have accepted := mapError_eq_ok_iff.mp mapped
  rw [mapError_eq_ok_iff] at collects
  rcases exists_plan_of_collectStep collected with ⟨plan, -, planned, -⟩
  rcases spares.exists_plan distinct afterDistinct changes planned with
    ⟨other, otherPlanned, sameFolders⟩
  rcases (collector settings rule).collect_same_of_reads planned otherPlanned sameFolders
      fun visit member => changes.logState_eq (spares.logs plan planned visit member) with
    ⟨same, first, second⟩
  cases collects.symm.trans first
  rw [collectStep_of_rule accepted, mapError_eq_ok_iff]
  exact second

theorem makeParents_again (made : makeParents tree here path = (after, .ok ()))
    (retains : after.Retains again) : makeParents again here path = (again, .ok ()) := by
  rw [makeParents] at made ⊢
  cases above : Path.parent? path with
  | none => rfl
  | some parent =>
      simp only [above] at made
      exact FileTree.makeDirectoriesFrom_again _ made retains

/-- A spreadsheet that has been written can be written again, and the same is then there, unless
something has replaced it in between. -/
theorem sheetStep_again {runs : List RunSummary} {benchmarks : List String} (later : Timestamp)
    (written : sheetStep s a settings runs benchmarks = .ok (tree, spreadsheet))
    (retains : tree.Retains after) :
    ∃ again,
      sheetStep { s with tree := after, now := later } a settings runs benchmarks =
        .ok (again, spreadsheet) ∧
      (∃ files, after.Changes again files) ∧
      ∀ location,
        (∀ node, tree.lookup location = some node → after.lookup location = some node) →
        again.lookup location = after.lookup location := by
  rcases sheetStep_eq_ok_iff.mp written with ⟨off, rfl, rfl⟩ | ⟨on, rfl, cells, built, puts⟩
  · exact ⟨after, sheetStep_eq_ok_iff.mpr (Or.inl ⟨off, rfl, rfl⟩), ⟨[], .refl after⟩,
      fun _ _ => rfl⟩
  · rcases FileTree.write_again puts retains with ⟨location, -, there, changes, writes⟩
    rcases writes (.workbook cells) with ⟨putsAgain, lookups⟩
    refine ⟨_, sheetStep_eq_ok_iff.mpr (Or.inr ⟨on, rfl, cells, built, putsAgain⟩),
      ⟨_, changes⟩, ?_⟩
    intro place kept
    rw [lookups]
    split
    · next same => rw [same] at kept ⊢; rw [kept _ there]
    · rfl

/-- A report that has been written can be written again, and only its file changes. -/
theorem writeReport_again (written : writeReport tree here report path = (after, .ok ()))
    (retains : after.Retains again) :
    ∃ location, after.locate here path = .ok location ∧ tree.Changes after [location] ∧
      ∀ other : Report, ∃ last,
        writeReport again here other path = (last, .ok ()) ∧ again.Retains last ∧
        ∀ place, last.lookup place =
          if place = location then some (.file (.bytes (Text.bytes other.text)))
          else again.lookup place := by
  rcases writeReport_eq_ok_iff.mp written with ⟨between, parents, puts⟩
  have directories := changes_makeParents tree here path
  rw [parents] at directories
  rcases FileTree.exists_of_write puts with ⟨location, -, -, changes, located, -⟩
  have parentsAgain : makeParents again here path = (again, .ok ()) :=
    makeParents_again parents (changes.retains.trans retains)
  rcases FileTree.write_again puts retains with ⟨same, alsoLocated, -, -, writes⟩
  cases located.symm.trans alsoLocated
  refine ⟨location, located, directories.trans changes, ?_⟩
  intro other
  rcases writes (.bytes (Text.bytes other.text)) with ⟨putsAgain, lookups⟩
  rcases FileTree.exists_of_write putsAgain with ⟨_, _, _, lastChanges, _⟩
  exact ⟨_, writeReport_eq_ok_iff.mpr ⟨again, parentsAgain, putsAgain⟩, lastChanges.retains, lookups⟩

theorem distinct_of_execute {outcome : Outcome} (distinct : s.tree.Distinct)
    (collected : collectStep s a settings = .ok collection)
    (ran : (execute s a settings).result = .ok outcome) : (execute s a settings).tree.Distinct := by
  rcases (execute_eq_ok collected ran).2 with ⟨tree, written, last⟩
  have treeDistinct : tree.Distinct := by
    rcases sheetStep_eq_ok_iff.mp written with ⟨-, rfl, -⟩ | ⟨-, -, cells, -, puts⟩
    · exact distinct
    · exact distinct.of_write puts
  rcases last with ⟨-, same⟩ | ⟨path, -, writes⟩
  · rwa [same]
  · rcases writeReport_eq_ok_iff.mp writes with ⟨made, parents, puts⟩
    have directories : (makeParents tree s.here path).1.Distinct := by
      rw [makeParents]
      cases Path.parent? path with
      | none => exact treeDistinct
      | some parent => exact treeDistinct.of_makeDirectoriesFrom s.here _ parent
    rw [parents] at directories
    exact directories.of_write puts

end Again

end CommandLine

open CommandLine in
/-- A run that spares its input can be made again. On the tree that it has left behind, with the
same arguments and settings and at any later time, it comes to the same: the same collection,
summaries and paths, and the same on the console. Every file is left as it was, but for the report,
which has another time in it. -/
theorem execute_again {s : Surroundings} {a : Arguments} {settings : Settings} {outcome : Outcome}
    (distinct : s.tree.Distinct) (ran : (execute s a settings).result = .ok outcome)
    (spares : SparesInput s (execute s a settings).tree a settings) (later : Timestamp) :
    let first := execute s a settings
    let second := execute { s with tree := first.tree, now := later } a settings
    second.result = .ok outcome ∧ second.printed = first.printed ∧
      (∀ location,
        (∀ path, outcome.json = some path → first.tree.locate s.here path ≠ .ok location) →
        second.tree.lookup location = first.tree.lookup location) ∧
      ∀ path, outcome.json = some path →
        first.tree.find s.here path =
          .ok (.file (.bytes (reportBytes a s.now outcome.collection))) ∧
        second.tree.locate s.here path = first.tree.locate s.here path ∧
        second.tree.find s.here path =
          .ok (.file (.bytes (reportBytes a later outcome.collection))) := by
  intro first second
  have collected := collectStep_of_execute ran
  have outputs := outputs_of_execute collected ran
  rcases outputs.files with ⟨files, -, changes⟩
  have collectedAgain :
      collectStep { s with tree := first.tree, now := later } a settings =
        .ok outcome.collection :=
    collect_again spares distinct (distinct_of_execute distinct collected ran) changes collected
  have printed : second.printed = first.printed := by
    rw [printed_of_collectStep collectedAgain, printed_of_collectStep collected]
  rcases execute_eq_ok collected ran with ⟨same, tree, written, last⟩
  have retains : tree.Retains first.tree := by
    rcases last with ⟨-, sameTree⟩ | ⟨path, -, writes⟩
    · rw [show first.tree = tree from sameTree]
      exact .refl tree
    · rcases writeReport_again writes (.refl _) with ⟨_, _, reportChanges, _⟩
      exact reportChanges.retains
  rcases sheetStep_again later written retains with
    ⟨again, writtenAgain, ⟨sheetFiles, sheetChanges⟩, lookups⟩
  rcases execute_of_sheetStep collectedAgain writtenAgain with ⟨treeAgain, resultAgain⟩
  rcases last with ⟨unwanted, sameTree⟩ | ⟨path, wanted, writes⟩
  · -- Without a report the second run ends behind its spreadsheet, which is there already.
    have unreported : outcome.json = none := by rw [same, unwanted]
    rw [reportStep, reportPath_eq_reportTarget, unwanted] at treeAgain resultAgain
    refine ⟨?_, printed, ?_, by simp [unreported]⟩
    · rw [show second.result = _ from resultAgain, same, unwanted]
      rfl
    · intro location _
      rw [show second.tree = again from treeAgain]
      apply lookups
      intro node there
      rwa [show first.tree = tree from sameTree]
  · have reported : outcome.json = some path := by rw [same, wanted]
    rcases writeReport_again writes sheetChanges.retains with
      ⟨location, located, reportChanges, rewrite⟩
    rcases rewrite (.ofCollection outcome.collection a.input later) with
      ⟨final, writesAgain, finalRetains, finalLookups⟩
    simp only [reportStep, reportPath_eq_reportTarget, wanted, writesAgain] at treeAgain resultAgain
    have finalTree : second.tree = final := treeAgain
    have locatedAgain : final.locate s.here path = .ok location :=
      FileTree.locate_of_retains (sheetChanges.retains.trans finalRetains) located
    refine ⟨?_, printed, ?_, ?_⟩
    · rw [show second.result = _ from resultAgain, same, wanted]
      rfl
    · intro place elsewhere
      have other : place ≠ location := by
        rintro rfl
        exact elsewhere path reported located
      rw [finalTree, finalLookups, if_neg other]
      exact lookups place fun node there => reportChanges.kept place (by simpa using other) node there
    · intro otherPath alsoReported
      cases reported.symm.trans alsoReported
      refine ⟨outputs.report path wanted, ?_, ?_⟩
      · rw [finalTree, locatedAgain, located]
      · rw [finalTree, FileTree.find_eq_ok_iff]
        exact ⟨location, locatedAgain, by rw [finalLookups, if_pos rfl]; rfl⟩

/-- The same directory with more in it. -/
def oneRunAnd (more : List (Location × Node)) : FileTree := ⟨oneRun.entries ++ more⟩

section OneRun

open CommandLine

set_option maxRecDepth 10000 in
/-- A run leaves a spreadsheet and a report in the current directory. -/
theorem execute_oneRun (now : Timestamp) :
    ∃ outcome cells text,
      (execute ⟨oneRun, [], now⟩ (reportTo "summary.json" false) oneBenchmark).result = .ok outcome ∧
      (execute ⟨oneRun, [], now⟩ (reportTo "summary.json" false) oneBenchmark).tree =
        oneRunAnd [([Path.ofString "occupancy.xlsx"], .file (.workbook cells)),
          ([Path.ofString "summary.json"], .file (.bytes text))] := by
  rw [execute, collectStep_of_planned oneRun_planned]
  exact ⟨_, _, _, rfl, rfl⟩

/-- Neither of the two is a directory, or on the way to a log. -/
theorem sparesInput_oneRun (now : Timestamp) (cells : List Sheet.Cell) (text : Bytes) :
    SparesInput ⟨oneRun, [], now⟩
      (oneRunAnd [([Path.ofString "occupancy.xlsx"], .file (.workbook cells)),
        ([Path.ofString "summary.json"], .file (.bytes text))])
      (reportTo "summary.json" false) oneBenchmark := by
  let behind := oneRunAnd [([Path.ofString "occupancy.xlsx"], .file (.workbook cells)),
    ([Path.ofString "summary.json"], .file (.bytes text))]
  have distinct : behind.Distinct := by
    simp only [behind, FileTree.Distinct, oneRunAnd, oneRun, List.map_append, List.map_cons,
      List.map_nil]
    decide
  have rooted : behind.locate [] (Path.ofString ".") = .ok [] := rfl
  refine ⟨?_, ?_⟩
  · intro name entry
    left
    cases entry with
    | itself located there _ =>
        cases rooted.symm.trans located
        rw [distinct.lookup_eq_some_iff (by simp)] at there
        obtain rfl : name = Path.ofString "a-1" := by
          simpa [behind, oneRunAnd, oneRun] using there
        exact .itself rfl rfl (by simp)
    | followed located there _ =>
        cases rooted.symm.trans located
        rw [distinct.lookup_eq_some_iff (by simp)] at there
        simp [behind, oneRunAnd, oneRun] at there
  · intro plan planned visit member contents _
    cases oneRun_planned.symm.trans planned
    obtain rfl : visit = ⟨.ofFolder (Path.ofString "./a-1") "a-1", "vgg16"⟩ := by
      simpa [Plan.visits, RunFolder.visits, oneBenchmark] using member
    have marks : behind.footprint [] (Path.ofString "./a-1/vgg16/vgg16.log") =
        [[], [], [Path.ofString "a-1"], [Path.ofString "a-1"],
          [Path.ofString "a-1", Path.ofString "vgg16"],
          [Path.ofString "a-1", Path.ofString "vgg16"],
          [Path.ofString "a-1", Path.ofString "vgg16", Path.ofString "vgg16.log"],
          [Path.ofString "a-1", Path.ofString "vgg16", Path.ofString "vgg16.log"]] := rfl
    intro location mark
    rw [not_not]
    have seen : location ∈ behind.footprint [] (Path.ofString "./a-1/vgg16/vgg16.log") := mark
    rw [marks] at seen
    fin_cases seen <;> rfl

end OneRun

open CommandLine in
/-- A spreadsheet and a report that stand in the input directory itself are not scanned, so the run
can be made again and again. -/
theorem execute_again_oneRun :
    let s : Surroundings := ⟨oneRun, [], ⟨0, 0⟩⟩
    let a := reportTo "summary.json" false
    ∃ outcome, (execute s a oneBenchmark).result = .ok outcome ∧
      ∀ later, (execute ⟨(execute s a oneBenchmark).tree, [], later⟩ a oneBenchmark).result =
        .ok outcome := by
  intro s a
  rcases execute_oneRun ⟨0, 0⟩ with ⟨outcome, cells, text, ran, left⟩
  have spares : SparesInput s (execute s a oneBenchmark).tree a oneBenchmark := by
    rw [show (execute s a oneBenchmark).tree = _ from left]
    exact sparesInput_oneRun ⟨0, 0⟩ cells text
  have distinct : oneRun.Distinct := by
    rw [FileTree.Distinct]
    decide
  exact ⟨outcome, ran, fun later => (execute_again distinct ran spares later).1⟩

/-- A directory with one run, whose log is a link to a file that is not there. -/
def oneLinkedRun : FileTree :=
  ⟨[([Path.ofString "a-1"], .directory),
    ([Path.ofString "a-1", Path.ofString "vgg16"], .directory),
    ([Path.ofString "a-1", Path.ofString "vgg16", Path.ofString "vgg16.log"],
      .link (Path.ofString "../../notes.json"))]⟩

theorem getLast?_join {path next : Bytes} (written : next ≠ []) :
    (Path.join path next).getLast? = next.getLast? := by
  rw [Path.join]
  split
  · rfl
  · split
    · exact List.getLast?_append_of_ne_nil _ written
    · rw [List.getLast?_append_of_ne_nil _ (List.cons_ne_nil _ _), List.getLast?_cons_of_ne_nil written]

/-- The path of a log ends in a letter that no other output has at its end. -/
theorem getLast?_logPath (run : RunFolder) (benchmark : String) :
    (run.logPath benchmark).getLast? = some 0x67 := by
  have ending : Path.ofString (benchmark ++ ".log") =
      Path.ofString benchmark ++ Path.ofString ".log" := by
    simp [Path.ofString, Text.bytes, Text.encode]
  have written : Path.ofString ".log" ≠ [] := by decide
  rw [RunFolder.logPath, getLast?_join (by simp [ending, written]), ending,
    List.getLast?_append_of_ne_nil _ written]
  decide

section Disturbance

open CommandLine

set_option maxRecDepth 10000 in
/-- A report for which a directory is made in the input directory. -/
theorem execute_oneRun_directory (now : Timestamp) :
    ∃ outcome cells text,
      (execute ⟨oneRun, [], now⟩ (reportTo "out/summary.json" false) oneBenchmark).result =
        .ok outcome ∧
      outcome.spreadsheet = some (Path.ofString "occupancy.xlsx") ∧
      outcome.json = some (Path.ofString "out/summary.json") ∧
      (execute ⟨oneRun, [], now⟩ (reportTo "out/summary.json" false) oneBenchmark).tree =
        oneRunAnd [([Path.ofString "occupancy.xlsx"], .file (.workbook cells)),
          ([Path.ofString "out"], .directory),
          ([Path.ofString "out", Path.ofString "summary.json"], .file (.bytes text))] := by
  rw [execute, collectStep_of_planned oneRun_planned]
  exact ⟨_, _, _, rfl, rfl, rfl, rfl⟩

set_option maxRecDepth 10000 in
/-- The directory is one more folder to scan, without any logs. -/
theorem execute_oneRun_directory_again (now : Timestamp) (cells : List Sheet.Cell) (text : Bytes) :
    (execute
      ⟨oneRunAnd [([Path.ofString "occupancy.xlsx"], .file (.workbook cells)),
        ([Path.ofString "out"], .directory),
        ([Path.ofString "out", Path.ofString "summary.json"], .file (.bytes text))], [], now⟩
      (reportTo "out/summary.json" false) oneBenchmark).result =
        .error (.sheet (Path.ofString "occupancy") (.layout (.noKernels ""))) := by
  have planned : Plan.ofTree
      (oneRunAnd [([Path.ofString "occupancy.xlsx"], .file (.workbook cells)),
        ([Path.ofString "out"], .directory),
        ([Path.ofString "out", Path.ofString "summary.json"], .file (.bytes text))]) []
      (Path.ofString ".") [] =
      .ok ⟨[.ofFolder (Path.ofString "./a-1") "a-1", .ofFolder (Path.ofString "./out") "out"],
        []⟩ := by
    cbv
  rw [execute, collectStep_of_planned planned]
  rfl

/-- A run without a spreadsheet, whose report can be written. -/
theorem execute_without_sheet {tree : FileTree} {plan : Plan} (now : Timestamp) (path : String)
    (planned : Plan.ofTree tree [] (Path.ofString ".") [] = .ok plan)
    (reported : ∀ collection,
      (reportStep ⟨tree, [], now⟩ (reportTo path true) oneBenchmark tree collection).2 =
        .ok (some (Path.ofString path))) :
    ∃ outcome,
      (execute ⟨tree, [], now⟩ (reportTo path true) oneBenchmark).result = .ok outcome ∧
      outcome.spreadsheet = none ∧ outcome.json = some (Path.ofString path) ∧
      outcome.collection.missing =
        (plan.visits ["vgg16"]).filterMap (Visit.note? (tree.logState [])) ∧
      (execute ⟨tree, [], now⟩ (reportTo path true) oneBenchmark).tree =
        (reportStep ⟨tree, [], now⟩ (reportTo path true) oneBenchmark tree
          outcome.collection).1 := by
  rcases (collector oneBenchmark .standard).exists_collectPlan_eq_ok tree [] plan with
    ⟨collection, collects⟩
  have collected :
      collectStep ⟨tree, [], now⟩ (reportTo path true) oneBenchmark = .ok collection := by
    rw [collectStep_of_planned planned, collects]
    rfl
  have unwanted : sheetStep ⟨tree, [], now⟩ (reportTo path true) oneBenchmark
      (summarize collection.store) collection.store.benchmarks = .ok (tree, none) := rfl
  rcases execute_of_sheetStep collected unwanted with ⟨left, ran⟩
  rw [reported] at ran
  rw [Collector.collectPlan_eq_orFail, orFail_eq_ok_iff] at collects
  refine ⟨_, ran, rfl, rfl, ?_, left⟩
  rw [← collects.2]
  rfl

/-- A report that goes where the link of a log leads. -/
theorem execute_oneLinkedRun (now : Timestamp) :
    ∃ outcome text,
      (execute ⟨oneLinkedRun, [], now⟩ (reportTo "notes.json" true) oneBenchmark).result =
        .ok outcome ∧
      outcome.spreadsheet = none ∧ outcome.json = some (Path.ofString "notes.json") ∧
      outcome.collection.missing.length = 1 ∧
      (execute ⟨oneLinkedRun, [], now⟩ (reportTo "notes.json" true) oneBenchmark).tree =
        ⟨oneLinkedRun.entries ++ [([Path.ofString "notes.json"], .file (.bytes text))]⟩ := by
  have planned : Plan.ofTree oneLinkedRun [] (Path.ofString ".") [] =
      .ok ⟨[.ofFolder (Path.ofString "./a-1") "a-1"], []⟩ := by
    cbv
  rcases execute_without_sheet now "notes.json" planned (fun _ => rfl) with
    ⟨outcome, ran, sheet, json, missing, left⟩
  exact ⟨outcome, _, ran, sheet, json, by rw [missing]; rfl, left⟩

/-- The log is there, and is the report. -/
theorem execute_oneLinkedRun_again (now : Timestamp) (text : Bytes) :
    ∃ outcome,
      (execute
        ⟨⟨oneLinkedRun.entries ++ [([Path.ofString "notes.json"], .file (.bytes text))]⟩, [], now⟩
        (reportTo "notes.json" true) oneBenchmark).result = .ok outcome ∧
      outcome.collection.missing = [] := by
  have planned : Plan.ofTree
      ⟨oneLinkedRun.entries ++ [([Path.ofString "notes.json"], .file (.bytes text))]⟩ []
      (Path.ofString ".") [] = .ok ⟨[.ofFolder (Path.ofString "./a-1") "a-1"], []⟩ := by
    cbv
  rcases execute_without_sheet now "notes.json" planned (fun _ => rfl) with
    ⟨outcome, ran, -, -, missing, -⟩
  exact ⟨outcome, ran, by rw [missing]; rfl⟩

end Disturbance

open CommandLine in
/-- A run may disturb its own input though no output has the path of a log. The directory that is
made for a report in the input directory is a folder to scan the next time, and has no logs. And a
log that is a link to where the report goes is missing only the first time. -/
theorem run_disturbs_input :
    (∀ (run : RunFolder) (benchmark : String),
      run.logPath benchmark ≠ Path.ofString "occupancy.xlsx" ∧
      run.logPath benchmark ≠ Path.ofString "out/summary.json" ∧
      run.logPath benchmark ≠ Path.ofString "notes.json") ∧
    (let a := reportTo "out/summary.json" false
      let first := execute ⟨oneRun, [], ⟨0, 0⟩⟩ a oneBenchmark
      (∃ outcome, first.result = .ok outcome ∧
        outcome.spreadsheet = some (Path.ofString "occupancy.xlsx") ∧
        outcome.json = some (Path.ofString "out/summary.json")) ∧
      (execute ⟨first.tree, [], ⟨0, 0⟩⟩ a oneBenchmark).result =
        .error (.sheet (Path.ofString "occupancy") (.layout (.noKernels "")))) ∧
    (let a := reportTo "notes.json" true
      let first := execute ⟨oneLinkedRun, [], ⟨0, 0⟩⟩ a oneBenchmark
      (∃ outcome, first.result = .ok outcome ∧ outcome.spreadsheet = none ∧
        outcome.json = some (Path.ofString "notes.json") ∧
        outcome.collection.missing.length = 1) ∧
      ∃ outcome, (execute ⟨first.tree, [], ⟨0, 0⟩⟩ a oneBenchmark).result = .ok outcome ∧
        outcome.collection.missing = []) := by
  refine ⟨?_, ?_, ?_⟩
  · intro run benchmark
    have last := getLast?_logPath run benchmark
    refine ⟨?_, ?_, ?_⟩ <;>
      · intro same
        rw [same] at last
        exact absurd last (by decide)
  · intro a first
    rcases execute_oneRun_directory ⟨0, 0⟩ with ⟨outcome, cells, text, ran, sheet, json, left⟩
    refine ⟨⟨outcome, ran, sheet, json⟩, ?_⟩
    rw [show first.tree = _ from left]
    exact execute_oneRun_directory_again ⟨0, 0⟩ cells text
  · intro a first
    rcases execute_oneLinkedRun ⟨0, 0⟩ with ⟨outcome, text, ran, sheet, json, missing, left⟩
    refine ⟨⟨outcome, ran, sheet, json, missing⟩, ?_⟩
    rw [show first.tree = _ from left]
    exact execute_oneLinkedRun_again ⟨0, 0⟩ text

end Occupancy
