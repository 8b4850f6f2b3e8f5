/-
Module: Occupancy.Proofs.PlanText
Purpose: The text of a plan tells what the run does that it stands for.
Main exports: Plan.Line, Plan.lines, Plan.render_eq, Plan.runNames_eq_eraseDups,
  Plan.folders_of_lines_perm, Plan.heading_of_item, dryRun_tells_execution
-/
import Occupancy.CommandLine.Run
import Occupancy.Proofs.CollectionReads

namespace Occupancy

/-!
The text of a plan and the collection group the same folders by their runs in two ways. The text
looks for the distinct names first and then goes through all folders once for each name. The
collection goes through the folders once and puts a run last when it meets its name for the first
time. Both orders are that of the distinct names of the folders, so the two agree without any
assumption on the order of the folders.
-/

/-- Taking the items of one key after those of another, for distinct keys that are all there are,
takes every item once. -/
theorem flatMap_filter_perm {α κ : Type} [DecidableEq κ] (keyOf : α → κ) {keys : List κ}
    {items : List α} (nodup : keys.Nodup) (covered : ∀ item ∈ items, keyOf item ∈ keys) :
    (keys.flatMap fun key => items.filter (keyOf · == key)).Perm items := by
  induction keys generalizing items with
  | nil =>
      have none : items = [] := List.eq_nil_iff_forall_not_mem.mpr fun item member => by
        cases covered item member
      rw [none]
      exact List.Perm.nil
  | cons first rest inductionHypothesis =>
      obtain ⟨fresh, restNodup⟩ := List.nodup_cons.mp nodup
      have others : (rest.flatMap fun key => items.filter (keyOf · == key)) =
          rest.flatMap fun key =>
            (items.filter fun item => !(keyOf item == first)).filter (keyOf · == key) := by
        apply List.flatMap_congr
        intro key member
        rw [List.filter_filter]
        apply List.filter_congr
        intro item _
        by_cases hit : keyOf item = key
        · have ne : key ≠ first := fun same => fresh (same ▸ member)
          simp [hit, ne]
        · simp [hit]
      have covers : ∀ item ∈ items.filter fun item => !(keyOf item == first),
          keyOf item ∈ rest := by
        intro item member
        obtain ⟨listed, ne⟩ := List.mem_filter.mp member
        refine (List.mem_cons.mp (covered item listed)).resolve_left ?_
        simpa using ne
      rw [List.flatMap_cons, others]
      exact ((inductionHypothesis restNodup covers).append_left _).trans
        (List.filter_append_perm _ items)

namespace Plan

/-- A line of the text of a plan, between its header and the counts. -/
inductive Line where
  | heading (run : String)
  | item (folder : RunFolder)
deriving DecidableEq, Repr

namespace Line

/-- How a line is written. -/
def text : Line → String
  | heading run => "├── run: " ++ run ++ "\n"
  | item folder => "│   ├── " ++ folder.folder ++ "\n"

/-- The run of a heading. -/
def run? : Line → Option String
  | heading run => some run
  | item _ => none

/-- The folder of an item. -/
def folder? : Line → Option RunFolder
  | heading _ => none
  | item folder => some folder

theorem filterMap_run?_items (folders : List RunFolder) :
    (folders.map item).filterMap run? = [] := by
  induction folders with
  | nil => rfl
  | cons folder rest inductionHypothesis => exact inductionHypothesis

theorem filterMap_folder?_items (folders : List RunFolder) :
    (folders.map item).filterMap folder? = folders := by
  induction folders with
  | nil => rfl
  | cons folder rest inductionHypothesis => exact congrArg (folder :: ·) inductionHypothesis

end Line

variable (plan : Plan)

/-- The folders of a run, in the order of the plan. -/
def foldersOf (run : String) : List RunFolder := plan.folders.filter (·.runName == run)

/-- The lines of a run: its heading, and its folders. -/
def runLines (run : String) : List Line := .heading run :: (plan.foldersOf run).map .item

/-- The lines of a plan, run by run. -/
def lines : List Line := plan.runNames.flatMap plan.runLines

/-- The runs of a plan are the distinct names of its folders. -/
theorem runNames_eq_eraseDups : plan.runNames = (plan.folders.map (·.runName)).eraseDups := by
  rw [runNames]
  induction plan.folders using List.reverseRecOn with
  | nil => rfl
  | append_singleton folders folder inductionHypothesis =>
      rw [List.foldl_concat, inductionHypothesis, List.map_append, List.map_singleton,
        eraseDups_concat]
      simp only [List.contains_iff_mem, List.mem_eraseDups]

theorem nodup_runNames : plan.runNames.Nodup := by
  rw [runNames_eq_eraseDups]
  exact nodup_eraseDups _

theorem mem_runNames_iff {run : String} :
    run ∈ plan.runNames ↔ ∃ folder ∈ plan.folders, folder.runName = run := by
  rw [runNames_eq_eraseDups, List.mem_eraseDups, List.mem_map]

theorem renderRun_eq (run : String) :
    plan.renderRun run = String.join ((plan.runLines run).map Line.text) := by
  rw [renderRun, runLines, foldersOf, List.map_cons, List.map_map, String.join_cons]
  rfl

theorem join_renderRun (runs : List String) :
    String.join (runs.map plan.renderRun) =
      String.join ((runs.flatMap plan.runLines).map Line.text) := by
  induction runs with
  | nil => rfl
  | cons run rest inductionHypothesis =>
      rw [List.map_cons, String.join_cons, List.flatMap_cons, List.map_append,
        String.join_append, inductionHypothesis, renderRun_eq]

/-- The text is the header, the lines, and the counts. -/
theorem render_eq (input : Bytes) :
    plan.render input =
      "occstat plan: " ++ Text.display input ++ "\n" ++ String.join (plan.lines.map Line.text) ++
        plan.folders.length.repr ++ " folders found (" ++ plan.excluded.length.repr ++
        " excluded).\n" := by
  rw [lines, ← join_renderRun]
  rfl

/-- The headings are the runs. -/
theorem headings_of_lines : plan.lines.filterMap Line.run? = plan.runNames := by
  have oneRun (run : String) : (plan.runLines run).filterMap Line.run? = [run] := by
    rw [runLines, List.filterMap_cons, Line.filterMap_run?_items]
    rfl
  rw [lines, List.filterMap_flatMap]
  simp only [oneRun, List.flatMap_singleton']

/-- Every folder of the plan has one line. -/
theorem folders_of_lines_perm : (plan.lines.filterMap Line.folder?).Perm plan.folders := by
  have oneRun (run : String) :
      (plan.runLines run).filterMap Line.folder? = plan.foldersOf run := by
    rw [runLines, List.filterMap_cons, Line.filterMap_folder?_items]
    rfl
  rw [lines, List.filterMap_flatMap]
  simp only [oneRun]
  exact flatMap_filter_perm (·.runName) plan.nodup_runNames fun folder member =>
    plan.mem_runNames_iff.mpr ⟨folder, member, rfl⟩

/-- In front of the line of a folder of a run stands its heading, and then other folders of it. -/
theorem eq_of_runLines_split {run : String} {before after : List Line} {folder : RunFolder}
    (split : plan.runLines run = before ++ .item folder :: after) :
    before.filterMap Line.run? = [run] ∧ folder.runName = run := by
  cases before with
  | nil => cases split
  | cons first front =>
      obtain ⟨rfl, items⟩ := List.cons.inj split
      obtain ⟨earlier, rest, all, rfl, fromHere⟩ := List.map_eq_append_iff.mp items
      obtain ⟨same, later, rfl, isFolder, -⟩ := List.map_eq_cons_iff.mp fromHere
      cases isFolder
      have member : folder ∈ plan.foldersOf run := by
        rw [all]
        exact List.mem_append_right _ List.mem_cons_self
      refine ⟨?_, by simpa using (List.mem_filter.mp member).2⟩
      rw [List.filterMap_cons, Line.filterMap_run?_items]
      rfl

/-- The last heading in front of the line of a folder is that of its run. -/
theorem heading_of_item {runs : List String} {before after : List Line} {folder : RunFolder}
    (split : runs.flatMap plan.runLines = before ++ .item folder :: after) :
    (before.filterMap Line.run?).getLast? = some folder.runName := by
  induction runs generalizing before with
  | nil => simp at split
  | cons run rest inductionHypothesis =>
      rw [List.flatMap_cons, List.append_eq_append_iff] at split
      rcases split with ⟨between, rfl, further⟩ | ⟨ending, block, continued⟩
      · rw [List.filterMap_append, List.getLast?_append, inductionHypothesis further,
          Option.some_or]
      · cases ending with
        | nil => cases @inductionHypothesis [] continued.symm
        | cons line ending =>
            -- the line is one of the first run, and only its heading is no folder
            cases continued
            obtain ⟨heading, named⟩ := plan.eq_of_runLines_split block
            rw [heading, named]
            rfl

/-- The distinct runs of the trials are those of the plan. -/
theorem runs_trials (logs : Bytes → LogState) :
    ((plan.trials logs).map (·.run)).eraseDups = plan.runNames := by
  rw [runNames_eq_eraseDups, trials, List.map_map]
  rfl

end Plan

/-- The runs of a collection are those of its plan, in the same order. -/
theorem Collector.names_of_collectPlan {c : Collector} {logs : Bytes → LogState} {plan : Plan}
    {collection : Collection} (collected : c.collectPlan logs plan = .ok collection) :
    collection.store.names = plan.runNames ∧ collection.folders = plan.folders.length := by
  obtain ⟨storeEq, foldersEq⟩ := reference_of_folders collected
  refine ⟨?_, foldersEq⟩
  rw [storeEq, referenceStore, Store.names_tabulate]
  exact plan.runs_trials logs

namespace CommandLine

variable {s : Surroundings} {a : Arguments} {settings : Settings}

/-- A run that comes to something has collected it. -/
theorem collectStep_of_execute {outcome : Outcome}
    (ran : (execute s a settings).result = .ok outcome) :
    collectStep s a settings = .ok outcome.collection := by
  rw [execute] at ran
  cases collected : collectStep s a settings with
  | error error =>
      rw [collected] at ran
      cases ran
  | ok collection =>
      rw [collected] at ran
      simp only at ran
      split at ran
      · cases ran
      · next tree spreadsheet written =>
          cases reported : (reportStep s a settings tree collection).2 with
          | error error =>
              rw [reported] at ran
              cases ran
          | ok json =>
              rw [reported] at ran
              cases ran
              rfl

/-- What is collected has a plan. -/
theorem exists_plan_of_collectStep {collection : Collection}
    (collected : collectStep s a settings = .ok collection) :
    ∃ plan c, Plan.ofTree s.tree s.here a.input (ignoredFolders settings a) = .ok plan ∧
      Collector.collectPlan c (s.tree.logState s.here) plan = .ok collection := by
  obtain ⟨rule, -, ran⟩ := bind_eq_ok_iff.mp collected
  cases outcome : Plan.ofTree s.tree s.here a.input (ignoredFolders settings a) with
  | error error =>
      rw [Collector.collect_eq_error_of_ofTree outcome] at ran
      cases ran
  | ok plan =>
      refine ⟨plan, collector settings rule, rfl, ?_⟩
      rw [Collector.collect_eq_of_ofTree outcome] at ran
      cases result : (collector settings rule).collectPlan (s.tree.logState s.here) plan with
      | error error =>
          rw [result] at ran
          cases ran
      | ok other =>
          rw [result] at ran
          cases ran
          rfl

end CommandLine

open CommandLine in
/-- The plan that is printed is that of the run. Whenever a run comes to something, printing the
plan for the same input and the same folders to leave out succeeds and changes no file, and what is
printed tells the collection: the runs are those of the plan, in the same order, and the number of
folders is the same. The text is a header, the lines of the plan, and the counts. The headings among
the lines are the runs; every folder of the plan has one line, wherever it stands in the plan, and
the last heading in front of this line is that of its run. -/
theorem dryRun_tells_execution {s : Surroundings} {a : Arguments} {settings : Settings}
    {outcome : Outcome} (ran : (execute s a settings).result = .ok outcome) (b : Arguments)
    (chosen : Settings) (sameInput : b.input = a.input)
    (sameIgnored : ignoredFolders chosen b = ignoredFolders settings a) :
    ∃ plan, Plan.ofTree s.tree s.here b.input (ignoredFolders chosen b) = .ok plan ∧
      dryRun s b chosen = ⟨plan.render b.input, s.tree, .ok ()⟩ ∧
      (b.dryRun = true → CommandLine.settings s b = .ok chosen →
        runArguments s b = ⟨plan.render b.input, s.tree, .ok ()⟩) ∧
      plan.runNames = outcome.collection.store.runs.map (·.name) ∧
      plan.folders.length = outcome.collection.folders ∧
      plan.render b.input =
        "occstat plan: " ++ Text.display b.input ++ "\n" ++
          String.join (plan.lines.map Plan.Line.text) ++ plan.folders.length.repr ++
          " folders found (" ++ plan.excluded.length.repr ++ " excluded).\n" ∧
      plan.lines = plan.runNames.flatMap (fun run =>
        .heading run :: (plan.folders.filter (·.runName == run)).map .item) ∧
      plan.runNames.Nodup ∧
      plan.lines.filterMap Plan.Line.run? = plan.runNames ∧
      (plan.lines.filterMap Plan.Line.folder?).Perm plan.folders ∧
      ∀ before folder after, plan.lines = before ++ .item folder :: after →
        (before.filterMap Plan.Line.run?).getLast? = some folder.runName := by
  obtain ⟨plan, c, planned, collected⟩ :=
    exists_plan_of_collectStep (collectStep_of_execute ran)
  obtain ⟨names, folders⟩ := c.names_of_collectPlan collected
  have alsoPlanned : Plan.ofTree s.tree s.here b.input (ignoredFolders chosen b) = .ok plan := by
    rw [sameInput, sameIgnored, planned]
  have printed : dryRun s b chosen = ⟨plan.render b.input, s.tree, .ok ()⟩ := by
    rw [dryRun, alsoPlanned]
  refine ⟨plan, alsoPlanned, printed, ?_, names.symm, folders.symm, plan.render_eq b.input, rfl,
    plan.nodup_runNames, plan.headings_of_lines, plan.folders_of_lines_perm,
    fun before folder after split => plan.heading_of_item split⟩
  intro asked found
  rw [runArguments, found]
  simp only [asked, if_true, printed]

/-- A tree with the folders of two runs, one of which lies between those of the other. -/
def interleavedTree : FileTree :=
  ⟨[([Path.ofString "in"], .directory),
    ([Path.ofString "in", Path.ofString "a-3"], .directory),
    ([Path.ofString "in", Path.ofString "a-1"], .directory),
    ([Path.ofString "in", Path.ofString "a-2-x"], .directory)]⟩

set_option maxRecDepth 10000 in
open CommandLine in
theorem dryRun_tells_execution_interleaved :
    let s : Surroundings := ⟨interleavedTree, [], ⟨0, 0⟩⟩
    let a : Arguments := ⟨false, none, true, Path.ofString "in", "", none, none, false⟩
    ∃ outcome, (execute s a .standard).result = .ok outcome ∧
      ∃ plan : Plan, runArguments s { a with dryRun := true } =
          ⟨plan.render (Path.ofString "in"), interleavedTree, .ok ()⟩ ∧
        plan.runNames = outcome.collection.store.runs.map (·.name) ∧
        plan.folders.length = outcome.collection.folders ∧
        plan.lines = [.heading "a", .item (.ofFolder (Path.ofString "in/a-1") "a-1"),
          .item (.ofFolder (Path.ofString "in/a-3") "a-3"), .heading "a-2",
          .item (.ofFolder (Path.ofString "in/a-2-x") "a-2-x")] := by
  intro s a
  have planned : Plan.ofTree interleavedTree [] (Path.ofString "in") [] =
      .ok ⟨[.ofFolder (Path.ofString "in/a-1") "a-1",
        .ofFolder (Path.ofString "in/a-2-x") "a-2-x",
        .ofFolder (Path.ofString "in/a-3") "a-3"], []⟩ := by
    cbv
  have stepped : collectStep s a .standard =
      ((collector .standard .standard).collect interleavedTree [] (Path.ofString "in") []).mapError
        (.collect (Path.ofString "in")) := rfl
  obtain ⟨outcome, ran⟩ : ∃ outcome, (execute s a .standard).result = .ok outcome := by
    rw [execute, stepped, Collector.collect_eq_of_ofTree planned]
    exact ⟨_, rfl⟩
  obtain ⟨plan, samePlanned, -, printed, names, folders, -⟩ :=
    dryRun_tells_execution ran { a with dryRun := true } .standard rfl rfl
  cases planned.symm.trans samePlanned
  exact ⟨outcome, ran, _, printed rfl rfl, names, folders, rfl⟩

end Occupancy
