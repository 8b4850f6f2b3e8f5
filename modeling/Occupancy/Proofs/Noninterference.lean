/-
Module: Occupancy.Proofs.Noninterference
Purpose: What is not scanned does not matter, and an excluded folder might as well not be there.
Main exports: Plan.ofTree_unique, Plan.ofTree_without_excluded, collect_of_unread
-/
import Occupancy.Proofs.EntryRemoval

namespace Occupancy

/-!
Two trees are compared by what a scan reads of them. The first comparison is by the logs themselves,
the second by the locations on the way to them, so that a change anywhere else is known to be one
that is not noticed.

To exclude folders is compared with taking them out of the tree. Of the names of all folders the
excluded ones are filtered out in one case, and are not among the names in the other, so the folders
of the plan are the same. The removal is noticed only by a path that led through an excluded folder.
-/

section SamePlan

variable {tree other : FileTree} {here root : Location} {input : Bytes} {exclude : List String}

/-- Two input directories with the same folders cannot have different plans. -/
theorem Plan.ofTree_unique {plan otherPlan : Plan} (distinct : tree.Distinct)
    (otherDistinct : other.Distinct) (planned : Plan.ofTree tree here input exclude = .ok plan)
    (otherPlanned : Plan.ofTree other here input exclude = .ok otherPlan)
    (same : ∀ name, other.HasEntry here input name .directory ↔
      tree.HasEntry here input name .directory) : otherPlan = plan := by
  obtain ⟨-, names, -, -, ascending, members, rfl⟩ := (ofTree_eq_ok_iff distinct).mp planned
  obtain ⟨-, otherNames, -, -, alsoAscending, alsoMembers, rfl⟩ :=
    (ofTree_eq_ok_iff otherDistinct).mp otherPlanned
  have sameNames : otherNames = names := by
    apply alsoAscending.eq_of_mem_iff ascending
    intro name
    rw [alsoMembers, members, same]
  rw [sameNames]

/-- Trees with the same folders and the same logs of the planned ones have the same collection. -/
theorem Collector.collect_same_of_folders {c : Collector} {plan : Plan} (distinct : tree.Distinct)
    (otherDistinct : other.Distinct) (planned : Plan.ofTree tree here input exclude = .ok plan)
    (alsoPlanned : ∃ otherPlan, Plan.ofTree other here input exclude = .ok otherPlan)
    (folders : ∀ name, other.HasEntry here input name .directory ↔
      tree.HasEntry here input name .directory)
    (logs : ∀ visit ∈ plan.visits c.benchmarks,
      other.logState here visit.path = tree.logState here visit.path) :
    ∃ collection, c.collect tree here input exclude = .ok collection ∧
      c.collect other here input exclude = .ok collection := by
  obtain ⟨otherPlan, otherPlanned⟩ := alsoPlanned
  have same : otherPlan = plan :=
    Plan.ofTree_unique distinct otherDistinct planned otherPlanned folders
  exact collect_same_of_reads planned otherPlanned (by rw [same]) logs

/-- The folders that a plan goes through are all those of the tree without the other folders. -/
theorem Plan.ofTree_without_excluded {gone : List Bytes} {full : Plan} (distinct : tree.Distinct)
    (planned : Plan.ofTree tree here input [] = .ok full)
    (located : tree.locate here input = .ok root)
    (excluded : ∀ name, name ∈ gone ↔
      tree.HasEntry here input name .directory ∧ Excludes exclude (Text.display name))
    (listing : tree.ListingAvoids here input root gone) :
    ∃ plan fewer, Plan.ofTree tree here input exclude = .ok plan ∧
      Plan.ofTree (tree.without root gone) here input [] = .ok fewer ∧
      fewer.folders = plan.folders := by
  obtain ⟨sameRoot, names, inside, sound, ascending, members, -⟩ :=
    (ofTree_eq_ok_iff distinct).mp planned
  cases located.symm.trans inside.located
  have lacks := FileTree.lacks_without tree root gone
  let kept := names.filter fun name => ¬Excludes exclude (Text.display name)
  have keptMembers : ∀ name, name ∈ kept ↔
      (tree.without root gone).HasEntry here input name .directory := by
    intro name
    rw [lacks.hasEntry_iff inside listing, excluded, ← members, List.mem_filter, decide_eq_true_eq]
    tauto
  have stillSound : ∀ name fault,
      ¬(tree.without root gone).LinkFault here input root name fault := by
    intro name fault faulty
    exact sound name fault ((lacks.linkFault_iff listing).mp faulty).2
  refine ⟨ofNames input exclude names, ofNames input [] kept,
    (ofTree_eq_ok_iff distinct).mpr ⟨root, names, inside, sound, ascending, members, rfl⟩,
    (ofTree_eq_ok_iff (distinct.without root gone)).mpr
      ⟨root, kept, lacks.inputDirectory inside listing, stillSound, ascending.filter _,
        keptMembers, rfl⟩, ?_⟩
  simp [ofNames, kept, not_excludes_nil]

end SamePlan

/-- What a scan does not read has no influence on it. Two trees with the same folders in the input
directory, and with the same logs of the planned folders, have the same collection; and the logs are
the same if the trees are the same at every location that the way to one of them leads through. To
leave folders out by an exclude list gives the collection of the tree without them, as long as
neither the input path, nor a link among the entries that stay, nor the way to a log that is there
leads through one of them. -/
theorem collect_of_unread (c : Collector) (here : Location) (input : Bytes)
    (exclude : List String) {tree : FileTree} (distinct : tree.Distinct) :
    (∀ (other : FileTree) (plan : Plan), other.Distinct →
      Plan.ofTree tree here input exclude = .ok plan →
      (∃ otherPlan, Plan.ofTree other here input exclude = .ok otherPlan) →
      (∀ name, other.HasEntry here input name .directory ↔
        tree.HasEntry here input name .directory) →
      (∀ visit ∈ plan.visits c.benchmarks, tree.SameLog other here visit.path) →
      ∃ collection, c.collect tree here input exclude = .ok collection ∧
        c.collect other here input exclude = .ok collection) ∧
    (∀ (other : FileTree) (plan : Plan) (changed : Location → Prop), other.Distinct →
      Plan.ofTree tree here input exclude = .ok plan →
      (∃ otherPlan, Plan.ofTree other here input exclude = .ok otherPlan) →
      (∀ name, other.HasEntry here input name .directory ↔
        tree.HasEntry here input name .directory) →
      (∀ location, ¬changed location → other.lookup location = tree.lookup location) →
      (∀ visit ∈ plan.visits c.benchmarks, tree.Avoids here visit.path changed) →
      ∃ collection, c.collect tree here input exclude = .ok collection ∧
        c.collect other here input exclude = .ok collection) ∧
    ∀ (root : Location) (gone : List Bytes),
      (∃ full, Plan.ofTree tree here input [] = .ok full) →
      tree.locate here input = .ok root →
      (∀ name, name ∈ gone ↔
        tree.HasEntry here input name .directory ∧ Excludes exclude (Text.display name)) →
      tree.ListingAvoids here input root gone →
      ∃ plan, Plan.ofTree tree here input exclude = .ok plan ∧
        ((∀ visit ∈ plan.visits c.benchmarks, ∀ found, tree.find here visit.path = .ok found →
          tree.Avoids here visit.path (FileTree.Within root gone)) →
        ∃ collection, c.collect tree here input exclude = .ok collection ∧
          c.collect (tree.without root gone) here input [] = .ok collection) := by
  refine ⟨?_, ?_, ?_⟩
  · intro other plan otherDistinct planned alsoPlanned folders logs
    exact Collector.collect_same_of_folders distinct otherDistinct planned alsoPlanned folders
      fun visit member => (logs visit member).logState_eq
  · intro other plan changed otherDistinct planned alsoPlanned folders agree avoids
    exact Collector.collect_same_of_folders distinct otherDistinct planned alsoPlanned folders
      fun visit member => FileTree.logState_congr ((avoids visit member).find_eq agree)
  · rintro root gone ⟨full, fullPlanned⟩ located excluded listing
    obtain ⟨plan, fewer, planned, fewerPlanned, same⟩ :=
      Plan.ofTree_without_excluded distinct fullPlanned located excluded listing
    refine ⟨plan, planned, ?_⟩
    intro logsAvoid
    exact Collector.collect_same_of_reads planned fewerPlanned same fun visit member =>
      (FileTree.lacks_without tree root gone).logState_eq (logsAvoid visit member)

/-- A tree with a folder to scan, and one to leave out. -/
def twoRuns : FileTree :=
  ⟨[([Path.ofString "in"], .directory),
    ([Path.ofString "in", Path.ofString "a-1"], .directory),
    ([Path.ofString "in", Path.ofString "a-1", Path.ofString "vgg16"], .directory),
    ([Path.ofString "in", Path.ofString "a-1", Path.ofString "vgg16", Path.ofString "vgg16.log"],
      .file (.bytes [])),
    ([Path.ofString "in", Path.ofString "foo-1"], .directory)]⟩

/-- The same tree with a file in the folder that is left out. -/
def twoRunsAndFile : FileTree :=
  twoRuns.put [Path.ofString "in", Path.ofString "foo-1", Path.ofString "notes.txt"]
    (.file (.bytes [0x2D]))

theorem twoRuns_distinct : twoRuns.Distinct := by
  rw [FileTree.Distinct]
  decide

/-- There are no links in the tree. -/
theorem twoRuns_lookup_ne_link (location : Location) (target : Bytes) :
    twoRuns.lookup location ≠ some (.link target) := by
  intro there
  have below : location ≠ [] := by
    rintro rfl
    cases there
  rw [twoRuns_distinct.lookup_eq_some_iff below] at there
  simp [twoRuns] at there

/-- Its entries are those of the tree with the file. -/
theorem twoRuns_hasEntry_iff (name : Bytes) (node : Node) :
    twoRunsAndFile.HasEntry [] (Path.ofString "in") name node ↔
      twoRuns.HasEntry [] (Path.ofString "in") name node := by
  have same : twoRunsAndFile.lookup ([Path.ofString "in"] ++ [name]) =
      twoRuns.lookup ([Path.ofString "in"] ++ [name]) := by
    apply (FileTree.adds_put rfl _).elsewhere
    simp
  constructor
  · intro entry
    exact entry.transfer rfl rfl same.symm fun target there =>
      absurd (same.symm.trans there) (twoRuns_lookup_ne_link _ target)
  · intro entry
    exact entry.transfer rfl rfl same fun target there =>
      absurd there (twoRuns_lookup_ne_link _ target)

/-- The folders of the tree. -/
theorem twoRuns_hasEntry_directory_iff (name : Bytes) :
    twoRuns.HasEntry [] (Path.ofString "in") name .directory ↔
      name = Path.ofString "a-1" ∨ name = Path.ofString "foo-1" := by
  constructor
  · intro entry
    cases entry with
    | itself located there plain =>
        have rooted : twoRuns.locate [] (Path.ofString "in") = .ok [Path.ofString "in"] := rfl
        obtain rfl := Except.ok.inj (rooted.symm.trans located)
        rw [twoRuns_distinct.lookup_eq_some_iff (by simp)] at there
        simpa [twoRuns] using there
    | followed located there found => exact absurd there (twoRuns_lookup_ne_link _ _)
  · rintro (rfl | rfl)
    · exact .itself rfl rfl (by simp)
    · exact .itself rfl rfl (by simp)

set_option maxRecDepth 10000 in
theorem collect_of_unread_twoRuns :
    let c : Collector := ⟨["vgg16"], [], .standard⟩
    let input := Path.ofString "in"
    (∃ collection, c.collect twoRuns [] input ["foo"] = .ok collection ∧
      c.collect twoRunsAndFile [] input ["foo"] = .ok collection) ∧
    (∃ collection, c.collect twoRuns [] input [] = .ok collection ∧
      c.collect twoRunsAndFile [] input [] = .ok collection) ∧
    ∃ collection, c.collect twoRuns [] input ["foo"] = .ok collection ∧
      c.collect (twoRuns.without [input] [Path.ofString "foo-1"]) [] input [] =
        .ok collection := by
  intro c input
  have planned : Plan.ofTree twoRuns [] input ["foo"] =
      .ok ⟨[.ofFolder (Path.ofString "in/a-1") "a-1"], ["foo-1"]⟩ := by
    cbv
  have alsoPlanned : Plan.ofTree twoRunsAndFile [] input ["foo"] =
      .ok ⟨[.ofFolder (Path.ofString "in/a-1") "a-1"], ["foo-1"]⟩ := by
    cbv
  have full : Plan.ofTree twoRuns [] input [] =
      .ok ⟨[.ofFolder (Path.ofString "in/a-1") "a-1",
        .ofFolder (Path.ofString "in/foo-1") "foo-1"], []⟩ := by
    cbv
  have alsoFull : Plan.ofTree twoRunsAndFile [] input [] =
      .ok ⟨[.ofFolder (Path.ofString "in/a-1") "a-1",
        .ofFolder (Path.ofString "in/foo-1") "foo-1"], []⟩ := by
    cbv
  have otherDistinct : twoRunsAndFile.Distinct := twoRuns_distinct.put _ _
  have folders (name : Bytes) := twoRuns_hasEntry_iff name .directory
  have excluded (name : Bytes) : name ∈ [Path.ofString "foo-1"] ↔
      twoRuns.HasEntry [] input name .directory ∧ Excludes ["foo"] (Text.display name) := by
    rw [twoRuns_hasEntry_directory_iff, List.mem_singleton]
    constructor
    · rintro rfl
      exact ⟨Or.inr rfl, by decide⟩
    · rintro ⟨rfl | rfl, left⟩
      · exact absurd left (by decide)
      · rfl
  have logsAvoid : ∀ visit ∈ Plan.visits ⟨[.ofFolder (Path.ofString "in/a-1") "a-1"], ["foo-1"]⟩
      c.benchmarks, twoRuns.Avoids [] visit.path
        (FileTree.Within [input] [Path.ofString "foo-1"]) := by
    decide
  obtain ⟨byLogs, -, byRemoval⟩ := collect_of_unread c [] input ["foo"] twoRuns_distinct
  obtain ⟨-, byLocations, -⟩ := collect_of_unread c [] input [] twoRuns_distinct
  refine ⟨byLogs _ _ otherDistinct planned ⟨_, alsoPlanned⟩ folders ?_,
    byLocations _ _ (· = [input, Path.ofString "foo-1", Path.ofString "notes.txt"]) otherDistinct
      full ⟨_, alsoFull⟩ folders (FileTree.adds_put rfl _).elsewhere (by decide), ?_⟩
  · intro visit member
    rw [Plan.visits, List.flatMap_singleton, RunFolder.visits, List.map_singleton,
      List.mem_singleton] at member
    subst member
    exact .both rfl rfl rfl
  · obtain ⟨plan, samePlanned, collected⟩ :=
      byRemoval [input] [Path.ofString "foo-1"] ⟨_, full⟩ rfl excluded
        ⟨by decide, fun name target _ there => absurd there (twoRuns_lookup_ne_link _ target)⟩
    cases planned.symm.trans samePlanned
    exact collected fun visit member _ _ => logsAvoid visit member

/-- A tree whose only folder is left out. -/
def oneExcluded : FileTree :=
  ⟨[([Path.ofString "in"], .directory), ([Path.ofString "in", Path.ofString "foo-1"], .directory)]⟩

/-- A tree with a link to a file in a folder that is left out. -/
def linkIntoExcluded : FileTree :=
  ⟨[([Path.ofString "in"], .directory), ([Path.ofString "in", Path.ofString "a-1"], .directory),
    ([Path.ofString "in", Path.ofString "foo-1"], .directory),
    ([Path.ofString "in", Path.ofString "foo-1", Path.ofString "notes.txt"], .file (.bytes [])),
    ([Path.ofString "in", Path.ofString "latest"], .link (Path.ofString "foo-1/notes.txt"))]⟩

set_option maxRecDepth 10000 in
/-- The removal of an excluded folder is noticed by an input path through it, even if there is no
folder to scan, and by a link to a file in it. -/
theorem removed_folder_noticed :
    let c : Collector := ⟨["vgg16"], [], .standard⟩
    let gone := FileTree.Within [Path.ofString "in"] [Path.ofString "foo-1"]
    (Plan.ofTree oneExcluded [] (Path.ofString "in/foo-1/..") ["foo"] = .ok ⟨[], ["foo-1"]⟩ ∧
      (∃ full, Plan.ofTree oneExcluded [] (Path.ofString "in/foo-1/..") [] = .ok full) ∧
      (∃ collection,
        c.collect oneExcluded [] (Path.ofString "in/foo-1/..") ["foo"] = .ok collection) ∧
      c.collect (oneExcluded.without [Path.ofString "in"] [Path.ofString "foo-1"]) []
          (Path.ofString "in/foo-1/..") [] =
        .error (.plan (.inputDirectory (Path.ofString "in/foo-1/..") .notFound))) ∧
    (Plan.ofTree linkIntoExcluded [] (Path.ofString "in") ["foo"] =
        .ok ⟨[.ofFolder (Path.ofString "in/a-1") "a-1"], ["foo-1"]⟩ ∧
      (∃ full, Plan.ofTree linkIntoExcluded [] (Path.ofString "in") [] = .ok full) ∧
      linkIntoExcluded.Avoids [] (Path.ofString "in/a-1") gone ∧
      linkIntoExcluded.Avoids [] (Path.ofString "in/a-1/vgg16/vgg16.log") gone ∧
      (∃ collection,
        c.collect linkIntoExcluded [] (Path.ofString "in") ["foo"] = .ok collection) ∧
      c.collect (linkIntoExcluded.without [Path.ofString "in"] [Path.ofString "foo-1"]) []
          (Path.ofString "in") [] =
        .error (.plan (.walk (.entry (Path.ofString "in/latest") .notFound)))) := by
  intro c gone
  have noFolder : Plan.ofTree oneExcluded [] (Path.ofString "in/foo-1/..") ["foo"] =
      .ok ⟨[], ["foo-1"]⟩ := by
    cbv
  have oneFolder : Plan.ofTree oneExcluded [] (Path.ofString "in/foo-1/..") [] =
      .ok ⟨[.ofFolder (Path.ofString "in/foo-1/../foo-1") "foo-1"], []⟩ := by
    cbv
  have lost : (oneExcluded.without [Path.ofString "in"] [Path.ofString "foo-1"]).locate []
      (Path.ofString "in/foo-1/..") = .error .notFound := by
    rfl
  have planned : Plan.ofTree linkIntoExcluded [] (Path.ofString "in") ["foo"] =
      .ok ⟨[.ofFolder (Path.ofString "in/a-1") "a-1"], ["foo-1"]⟩ := by
    cbv
  have full : Plan.ofTree linkIntoExcluded [] (Path.ofString "in") [] =
      .ok ⟨[.ofFolder (Path.ofString "in/a-1") "a-1",
        .ofFolder (Path.ofString "in/foo-1") "foo-1"], []⟩ := by
    cbv
  have stale : Plan.ofTree
      (linkIntoExcluded.without [Path.ofString "in"] [Path.ofString "foo-1"]) []
      (Path.ofString "in") [] = .error (.walk (.entry (Path.ofString "in/latest") .notFound)) := by
    cbv
  refine ⟨⟨noFolder, ⟨_, oneFolder⟩, ⟨_, Collector.collect_eq_of_ofTree noFolder⟩,
    Collector.collect_eq_error_of_ofTree (Plan.ofTree_of_locate_error lost)⟩,
    planned, ⟨_, full⟩, by decide, by decide, ?_, Collector.collect_eq_error_of_ofTree stale⟩
  rw [Collector.collect_eq_of_ofTree planned]
  exact ⟨_, rfl⟩

end Occupancy
