/-
Module: Occupancy.Proofs.EntryRemoval
Purpose: What a scan notices of entries that are taken out of the input directory.
Main exports: FileTree.Lacks, FileTree.ListingAvoids, FileTree.Lacks.linkFault_iff,
  FileTree.Lacks.hasEntry_iff, FileTree.Lacks.logState_eq, collect_of_added_file
-/
import Occupancy.Proofs.CollectionReads

namespace Occupancy

/-!
When entries are taken out of the input directory, three things can go wrong besides the loss of the
entries themselves: the input path may lead through one of them, a link among the other entries may,
and so may the path of a log. `ListingAvoids` rules out the first two. The other entries are then
what they were, and the plan can be read off the two sets of entries (`Plan.ofTree_congr`,
`Plan.ofTree_eq_ok_iff`). A log only has to avoid the entries if it is there, because a tree with
less in it never makes a log appear.
-/

namespace FileTree

/-- The second tree lacks some entries of a directory, and has nothing that the first one does not
have. What is neither one of the entries nor below one is the same in both. -/
structure Lacks (tree less : FileTree) (root : Location) (names : List Bytes) : Prop where
  gone : ∀ name ∈ names, less.lookup (root ++ [name]) = none
  kept : ∀ location, ¬Within root names location → less.lookup location = tree.lookup location
  fewer : ∀ location node, less.lookup location = some node → tree.lookup location = some node

theorem lacks_without (tree : FileTree) (root : Location) (names : List Bytes) :
    tree.Lacks (tree.without root names) root names where
  gone := by
    intro name member
    rw [lookup_without, if_pos (within_concat_iff.mpr member)]
  kept := by
    intro location outside
    rw [lookup_without, if_neg outside]
  fewer := by
    intro location node there
    rw [lookup_without] at there
    split at there
    · cases there
    · exact there

theorem Adds.lacks {tree after : FileTree} {root : Location} {name : Bytes} {node : Node}
    (adds : tree.Adds after (root ++ [name]) node) : after.Lacks tree root [name] where
  gone := by
    intro other isName
    rw [List.mem_singleton.mp isName, adds.absent]
  kept := by
    intro location outside
    refine (adds.elsewhere location ?_).symm
    rintro rfl
    exact outside (within_concat_iff.mpr (List.mem_singleton_self name))
  fewer := by
    intro location standing there
    rw [adds.elsewhere location, there]
    rintro rfl
    rw [adds.absent] at there
    cases there

/-- The listing of an input directory leads through none of some entries of it: neither the input
path does, nor a link among the other entries. -/
structure ListingAvoids (tree : FileTree) (here : Location) (input : Bytes) (root : Location)
    (names : List Bytes) : Prop where
  inputPath : tree.Avoids here input (Within root names)
  links : ∀ name target, name ∉ names → tree.lookup (root ++ [name]) = some (.link target) →
    tree.Avoids here (Path.join input name) (Within root names)

section Listing

variable {tree less : FileTree} {here root : Location} {input name : Bytes} {names : List Bytes}

theorem Lacks.inputDirectory (lacks : tree.Lacks less root names)
    (inside : tree.InputDirectory here input root)
    (listing : tree.ListingAvoids here input root names) : less.InputDirectory here input root where
  located := (listing.inputPath.locate_eq lacks.kept).trans inside.located
  directory := (lacks.kept root not_within_self).trans inside.directory

theorem Lacks.lookup_concat (lacks : tree.Lacks less root names) (left : name ∉ names) :
    less.lookup (root ++ [name]) = tree.lookup (root ++ [name]) :=
  lacks.kept _ fun within => left (within_concat_iff.mp within)

/-- The faulty links are those of the entries that are left. -/
theorem Lacks.linkFault_iff (lacks : tree.Lacks less root names)
    (listing : tree.ListingAvoids here input root names) {error : WalkError} :
    less.LinkFault here input root name error ↔
      name ∉ names ∧ tree.LinkFault here input root name error := by
  by_cases left : name ∈ names
  · have none : ¬less.LinkFault here input root name error := by
      intro faulty
      have there := faulty.isSome_lookup
      rw [lacks.gone name left] at there
      cases there
    simp [left, none]
  · have same := lacks.lookup_concat left
    have followed : ∀ target, tree.lookup (root ++ [name]) = some (.link target) →
        less.locate here (Path.join input name) = tree.locate here (Path.join input name) :=
      fun target there => (listing.links name target left there).locate_eq lacks.kept
    constructor
    · intro faulty
      exact ⟨left, faulty.transfer same.symm fun target there =>
        (followed target (same.symm.trans there)).symm⟩
    · rintro ⟨-, faulty⟩
      exact faulty.transfer same followed

/-- The entries that are left are what they were. -/
theorem Lacks.hasEntry_iff (lacks : tree.Lacks less root names)
    (inside : tree.InputDirectory here input root)
    (listing : tree.ListingAvoids here input root names) {node : Node} :
    less.HasEntry here input name node ↔
      name ∉ names ∧ tree.HasEntry here input name node := by
  have alsoInside := lacks.inputDirectory inside listing
  by_cases left : name ∈ names
  · have none : ¬less.HasEntry here input name node := by
      intro entry
      have there := entry.isSome_lookup alsoInside.located
      rw [lacks.gone name left] at there
      cases there
    simp [left, none]
  · have same := lacks.lookup_concat left
    have followed : ∀ target, tree.lookup (root ++ [name]) = some (.link target) →
        less.find here (Path.join input name) = tree.find here (Path.join input name) :=
      fun target there => (listing.links name target left there).find_eq lacks.kept
    constructor
    · intro entry
      exact ⟨left, entry.transfer alsoInside.located inside.located same.symm fun target there =>
        (followed target (same.symm.trans there)).symm⟩
    · rintro ⟨-, entry⟩
      exact entry.transfer inside.located alsoInside.located same followed

/-- A log that is found past the entries is found without them, and one that is not there does not
appear. -/
theorem Lacks.logState_eq (lacks : tree.Lacks less root names) {path : Bytes}
    (avoids : ∀ node, tree.find here path = .ok node →
      tree.Avoids here path (Within root names)) :
    less.logState here path = tree.logState here path := by
  cases found : tree.find here path with
  | ok node => exact logState_congr ((avoids node found).find_eq lacks.kept)
  | error fault =>
      have absent : tree.logState here path = .absent := by
        rw [logState_eq_absent_iff, found]
        simp
      rw [absent, logState_eq_absent_iff]
      intro contents appears
      rw [find_of_extends lacks.fewer appears] at found
      cases found

end Listing

end FileTree

section AddedFile

variable {tree after : FileTree} {here root : Location} {input name : Bytes} {node : Node}
  {contents : Contents} {exclude : List String}

/-- A plan does not notice a file in the input directory. -/
theorem Plan.ofTree_of_added_file (distinct : tree.Distinct) (afterDistinct : after.Distinct)
    (inside : after.InputDirectory here input root)
    (adds : tree.Adds after (root ++ [name]) node)
    (leads : after.HasEntry here input name (.file contents))
    (listing : after.ListingAvoids here input root [name]) :
    Plan.ofTree after here input exclude = Plan.ofTree tree here input exclude := by
  have lacks := adds.lacks
  symm
  refine Plan.ofTree_congr afterDistinct distinct (listing.inputPath.locate_eq lacks.kept) ?_ ?_ ?_
  · intro other located
    cases inside.located.symm.trans located
    exact lacks.kept root FileTree.not_within_self
  · intro other entry fault located
    cases inside.located.symm.trans located
    rw [lacks.linkFault_iff listing, and_iff_right_iff_imp]
    intro faulty isName
    rw [List.mem_singleton.mp isName] at faulty
    exact leads.not_linkFault inside faulty
  · intro entry
    rw [lacks.hasEntry_iff inside listing, and_iff_right_iff_imp]
    intro folder isName
    rw [List.mem_singleton.mp isName] at folder
    cases leads.unique folder

end AddedFile

/-- A scan does not notice a file in the input directory, or a link to one, as long as nothing that
it looks up leads through the entry. Neither the plan nor the error that there is instead of one
changes if the input path and the links of the other entries do not. Nor does the collection, if the
logs of the planned folders that are there do not. -/
theorem collect_of_added_file {tree after : FileTree} {here root : Location} {input name : Bytes}
    {node : Node} {contents : Contents} (distinct : tree.Distinct)
    (afterDistinct : after.Distinct) (inside : after.InputDirectory here input root)
    (adds : tree.Adds after (root ++ [name]) node)
    (leads : after.HasEntry here input name (.file contents))
    (listing : after.ListingAvoids here input root [name]) (exclude : List String)
    (c : Collector) :
    Plan.ofTree after here input exclude = Plan.ofTree tree here input exclude ∧
      ((∀ plan, Plan.ofTree after here input exclude = .ok plan →
        ∀ visit ∈ plan.visits c.benchmarks, ∀ found, after.find here visit.path = .ok found →
          after.Avoids here visit.path (FileTree.Within root [name])) →
        c.collect after here input exclude = c.collect tree here input exclude) := by
  have same : Plan.ofTree after here input exclude = Plan.ofTree tree here input exclude :=
    Plan.ofTree_of_added_file distinct afterDistinct inside adds leads listing
  refine ⟨same, ?_⟩
  intro logsAvoid
  cases outcome : Plan.ofTree after here input exclude with
  | error error =>
      rw [Collector.collect_eq_error_of_ofTree outcome,
        Collector.collect_eq_error_of_ofTree (same.symm.trans outcome)]
  | ok plan =>
      obtain ⟨collection, collected, alsoCollected⟩ :=
        Collector.collect_same_of_reads outcome (same.symm.trans outcome) rfl
          fun visit member => adds.lacks.logState_eq (logsAvoid plan outcome visit member)
      rw [collected, alsoCollected]

/-- A tree with one folder to scan and one log in it. -/
def oneTrial : FileTree :=
  ⟨[([Path.ofString "in"], .directory),
    ([Path.ofString "in", Path.ofString "a-1"], .directory),
    ([Path.ofString "in", Path.ofString "a-1", Path.ofString "vgg16"], .directory),
    ([Path.ofString "in", Path.ofString "a-1", Path.ofString "vgg16", Path.ofString "vgg16.log"],
      .file (.bytes []))]⟩

/-- The same tree with a link to the log beside the folder. -/
def oneTrialAndLink : FileTree :=
  oneTrial.put [Path.ofString "in", Path.ofString "latest"]
    (.link (Path.ofString "a-1/vgg16/vgg16.log"))

set_option maxRecDepth 10000 in
theorem collect_of_added_file_link :
    Plan.ofTree oneTrialAndLink [] (Path.ofString "in") [] =
        Plan.ofTree oneTrial [] (Path.ofString "in") [] ∧
      Collector.collect ⟨["vgg16"], [], .standard⟩ oneTrialAndLink [] (Path.ofString "in") [] =
        Collector.collect ⟨["vgg16"], [], .standard⟩ oneTrial [] (Path.ofString "in") [] := by
  have distinct : oneTrial.Distinct := by
    rw [FileTree.Distinct]
    decide
  have adds : oneTrial.Adds oneTrialAndLink ([Path.ofString "in"] ++ [Path.ofString "latest"])
      (.link (Path.ofString "a-1/vgg16/vgg16.log")) := FileTree.adds_put rfl _
  have listing : oneTrialAndLink.ListingAvoids [] (Path.ofString "in") [Path.ofString "in"]
      [Path.ofString "latest"] := by
    refine ⟨by decide, ?_⟩
    intro name target left there
    rw [adds.elsewhere _ (by simpa using left), distinct.lookup_eq_some_iff (by simp)] at there
    simp [oneTrial] at there
  have planned : Plan.ofTree oneTrialAndLink [] (Path.ofString "in") [] =
      .ok ⟨[.ofFolder (Path.ofString "in/a-1") "a-1"], []⟩ := by
    cbv
  obtain ⟨samePlan, sameCollection⟩ :=
    collect_of_added_file distinct (distinct.put _ _) ⟨rfl, rfl⟩ adds
      (.followed rfl rfl rfl) listing [] ⟨["vgg16"], [], .standard⟩
  refine ⟨samePlan, sameCollection ?_⟩
  intro plan outcome visit member found _
  cases planned.symm.trans outcome
  rw [Plan.visits, List.flatMap_singleton, RunFolder.visits, List.map_singleton,
    List.mem_singleton] at member
  subst member
  decide

/-- A tree with one folder in which the log is a link to a file that is not there. -/
def oneLinkedLog : FileTree :=
  ⟨[([Path.ofString "in"], .directory),
    ([Path.ofString "in", Path.ofString "a-1"], .directory),
    ([Path.ofString "in", Path.ofString "a-1", Path.ofString "vgg16"], .directory),
    ([Path.ofString "in", Path.ofString "a-1", Path.ofString "vgg16", Path.ofString "vgg16.log"],
      .link (Path.ofString "../../notes.txt"))]⟩

/-- The same tree with the file, which stands beside the folder. -/
def oneLinkedLogAndFile : FileTree :=
  oneLinkedLog.put [Path.ofString "in", Path.ofString "notes.txt"] (.file (.bytes []))

/-- The same folder with a link beside it that leads nowhere. -/
def oneTrialAndStaleLink : FileTree :=
  oneTrial.put [Path.ofString "in", Path.ofString "old"] (.link (Path.ofString "gone"))

set_option maxRecDepth 10000 in
/-- What is no directory can be noticed all the same: a link that leads nowhere, which ends the
listing, and a file to which a log is a link. -/
theorem added_entry_noticed :
    (oneTrial.Adds oneTrialAndStaleLink [Path.ofString "in", Path.ofString "old"]
        (.link (Path.ofString "gone")) ∧
      (∀ node, ¬oneTrialAndStaleLink.HasEntry [] (Path.ofString "in") (Path.ofString "old") node) ∧
      (∃ collection, Collector.collect ⟨["vgg16"], [], .standard⟩ oneTrial []
        (Path.ofString "in") [] = .ok collection) ∧
      Collector.collect ⟨["vgg16"], [], .standard⟩ oneTrialAndStaleLink [] (Path.ofString "in") [] =
        .error (.plan (.walk (.entry (Path.ofString "in/old") .notFound)))) ∧
    (oneLinkedLog.Adds oneLinkedLogAndFile [Path.ofString "in", Path.ofString "notes.txt"]
        (.file (.bytes [])) ∧
      (∃ collection, Collector.collect ⟨["vgg16"], [], .standard⟩ oneLinkedLog []
          (Path.ofString "in") [] = .ok collection ∧
        collection.missing =
          [⟨"a", "1", "vgg16", Path.ofString "in/a-1/vgg16/vgg16.log"⟩]) ∧
      ∃ collection, Collector.collect ⟨["vgg16"], [], .standard⟩ oneLinkedLogAndFile []
          (Path.ofString "in") [] = .ok collection ∧
        collection.missing = []) := by
  have oneFolder : Plan.ofTree oneTrial [] (Path.ofString "in") [] =
      .ok ⟨[.ofFolder (Path.ofString "in/a-1") "a-1"], []⟩ := by
    cbv
  have stale : Plan.ofTree oneTrialAndStaleLink [] (Path.ofString "in") [] =
      .error (.walk (.entry (Path.ofString "in/old") .notFound)) := by
    cbv
  have linked : Plan.ofTree oneLinkedLog [] (Path.ofString "in") [] =
      .ok ⟨[.ofFolder (Path.ofString "in/a-1") "a-1"], []⟩ := by
    cbv
  have linkedAndFile : Plan.ofTree oneLinkedLogAndFile [] (Path.ofString "in") [] =
      .ok ⟨[.ofFolder (Path.ofString "in/a-1") "a-1"], []⟩ := by
    cbv
  refine ⟨⟨FileTree.adds_put rfl _, ?_, ?_, Collector.collect_eq_error_of_ofTree stale⟩,
    FileTree.adds_put rfl _, ?_, ?_⟩
  · intro node entry
    cases entry with
    | itself located there plain =>
        cases located
        cases there
        exact plain _ rfl
    | followed _ _ found => cases found
  · rw [Collector.collect_eq_of_ofTree oneFolder]
    exact ⟨_, rfl⟩
  · rw [Collector.collect_eq_of_ofTree linked]
    exact ⟨_, rfl, rfl⟩
  · rw [Collector.collect_eq_of_ofTree linkedAndFile]
    exact ⟨_, rfl, rfl⟩

end Occupancy
