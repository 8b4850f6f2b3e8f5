/-
Module: Occupancy.Proofs.IgnoreList
Purpose: Which names a list with commas gives, and which folders a run leaves out for them.
Main exports: Text.Trims, Text.trim_eq_iff, CommandLine.ignoreList_eq, CommandLine.ListedName,
  CommandLine.Ignores, CommandLine.Ignored, Plan.leaving, Plan.ofTree_eq_map_leaving,
  ignoreList_tells_exclusion
-/
import Mathlib
import Occupancy.Proofs.CollectionReads
import Occupancy.Proofs.Folds
import Occupancy.Proofs.PlanEntries
import Occupancy.Proofs.RunEffects

namespace Occupancy

/-!
A list is cut at its commas, each piece loses the white space around it, and what is then empty is
dropped. The last two steps look at one piece at a time, so everything about the list as a whole is
about the cutting: cutting two lists with a comma between them cuts each of them, and cutting undoes
the joining of pieces without a comma. A name that a list gives is left alone by the last two steps,
which is why a list of names may be joined and read again.

The names of the settings are not trimmed. The two lists are only put one behind the other, and the
plan passes over the empty items of both.
-/

namespace Text

/-- A text without white space at either end. -/
structure Bare (cs : List Char) : Prop where
  first : ∀ c ∈ cs.head?, isBlank c = false
  last : ∀ c ∈ cs.getLast?, isBlank c = false

/-- A text is another one with white space around it. -/
structure Trims (cs bare : List Char) : Prop where
  around : ∃ before after, cs = before ++ bare ++ after ∧
    (∀ c ∈ before, isBlank c = true) ∧ ∀ c ∈ after, isBlank c = true
  bare : Bare bare

theorem trim_eq_rdropWhile (cs : List Char) :
    trim cs = (cs.dropWhile isBlank).rdropWhile isBlank := rfl

/-- What is left of a text has no white space at its ends. -/
theorem bare_trim (cs : List Char) : Bare (trim cs) where
  first := by
    intro c first
    obtain ⟨behind, split⟩ := List.rdropWhile_prefix isBlank (cs.dropWhile isBlank)
    rw [← trim_eq_rdropWhile] at split
    have kept : (cs.dropWhile isBlank).head? = some c := by
      rw [← split, List.head?_append, Option.mem_def.mp first, Option.some_or]
    have stopped := List.head?_dropWhile_not isBlank cs
    rwa [kept] at stopped
  last := by
    intro c last
    have some : trim cs ≠ [] := by
      intro none
      rw [none] at last
      cases last
    have stopped := List.rdropWhile_last_not isBlank (cs.dropWhile isBlank) some
    rw [List.getLast?_eq_some_getLast some, Option.mem_some_iff] at last
    rw [← last]
    exact Bool.eq_false_iff.mpr stopped

theorem trims_trim (cs : List Char) : Trims cs (trim cs) where
  around := by
    refine ⟨cs.takeWhile isBlank, (cs.dropWhile isBlank).rtakeWhile isBlank, ?_,
      fun c => List.mem_takeWhile_imp, fun c => List.mem_rtakeWhile_imp⟩
    rw [trim_eq_rdropWhile, List.append_assoc, List.rdropWhile_append_rtakeWhile,
      List.takeWhile_append_dropWhile]
  bare := bare_trim cs

theorem rdropWhile_append_of_pos {p : Char → Bool} {front after : List Char}
    (drops : ∀ c ∈ after, p c = true) : (front ++ after).rdropWhile p = front.rdropWhile p := by
  rw [List.rdropWhile, List.reverse_append,
    List.dropWhile_append_of_pos fun c member => drops c (List.mem_reverse.mp member)]
  rfl

/-- Only one text is left of another one. -/
theorem trim_eq_iff {cs bare : List Char} : trim cs = bare ↔ Trims cs bare := by
  constructor
  · rintro rfl
    exact trims_trim cs
  · rintro ⟨⟨before, after, rfl, blankBefore, blankAfter⟩, ends⟩
    rw [trim_eq_rdropWhile, List.append_assoc, List.dropWhile_append_of_pos blankBefore]
    cases bare with
    | nil => rw [List.nil_append, List.dropWhile_eq_nil_iff.mpr blankAfter, List.rdropWhile_nil]
    | cons c rest =>
        have front : isBlank c = false := ends.first c rfl
        have whole : (c :: rest).rdropWhile isBlank = c :: rest := by
          rw [List.rdropWhile_eq_self_iff]
          intro some
          rw [ends.last _ (List.getLast?_eq_some_getLast some)]
          decide
        rw [List.cons_append, List.dropWhile_cons_of_neg (by simp [front]), ← List.cons_append,
          rdropWhile_append_of_pos blankAfter, whole]

/-- A text without white space at its ends is left alone. -/
theorem trim_of_bare {cs : List Char} (bare : Bare cs) : trim cs = cs :=
  trim_eq_iff.mpr ⟨⟨[], [], by simp, by simp, by simp⟩, bare⟩

/-- Trimming adds nothing. -/
theorem mem_of_mem_trim {c : Char} {cs : List Char} (member : c ∈ trim cs) : c ∈ cs :=
  (List.dropWhile_sublist _).subset ((List.rdropWhile_prefix _ _).subset member)

end Text

namespace CommandLine

theorem splitCommas_eq_splitOn (cs : List Char) : splitCommas [] cs = cs.splitOn ',' :=
  eq_splitOn_of_cuts (fun _ => rfl) (fun _ _ _ => by rw [splitCommas]) cs

/-- The pieces of a list, and what is done to each. -/
theorem ignoreList_eq (list : String) :
    ignoreList list =
      (((list.toList.splitOn ',').map Text.trim).filter (!·.isEmpty)).map String.ofList := by
  rw [ignoreList, splitCommas_eq_splitOn]

/-- A name of a list is what is left of a piece of it. -/
theorem mem_ignoreList_iff {list name : String} :
    name ∈ ignoreList list ↔
      name ≠ "" ∧ ∃ piece ∈ list.toList.splitOn ',', Text.Trims piece name.toList := by
  have some : name ≠ "" ↔ name.toList ≠ [] := by
    rw [ne_eq, ne_eq, String.toList_eq_nil_iff]
  simp only [ignoreList_eq, List.mem_map, List.mem_filter, Bool.not_eq_true',
    List.isEmpty_eq_false_iff, ← Text.trim_eq_iff, some]
  constructor
  · rintro ⟨trimmed, ⟨⟨piece, member, rfl⟩, nonempty⟩, rfl⟩
    rw [String.toList_ofList]
    exact ⟨nonempty, piece, member, rfl⟩
  · rintro ⟨nonempty, piece, member, trimmed⟩
    exact ⟨name.toList, ⟨⟨piece, member, trimmed⟩, nonempty⟩, String.ofList_toList⟩

/-- What a list can give: a name that is not empty, with no comma in it and no white space at its
ends. -/
structure ListedName (name : String) : Prop where
  nonempty : name ≠ ""
  commaless : ',' ∉ name.toList
  bare : Text.Bare name.toList

theorem listedName_of_mem_ignoreList {list name : String} (member : name ∈ ignoreList list) :
    ListedName name := by
  obtain ⟨nonempty, piece, cut, trims⟩ := mem_ignoreList_iff.mp member
  refine ⟨nonempty, ?_, trims.bare⟩
  intro comma
  rw [← Text.trim_eq_iff.mpr trims] at comma
  exact not_mem_of_mem_splitOn cut (Text.mem_of_mem_trim comma)

/-- A comma between two lists keeps their names apart. -/
theorem ignoreList_append_comma (first second : String) :
    ignoreList (first ++ "," ++ second) = ignoreList first ++ ignoreList second := by
  have joined : (first ++ "," ++ second).toList = first.toList ++ ',' :: second.toList := by
    simp
  rw [ignoreList_eq, joined, List.splitOn_append_cons_self, List.map_append, List.filter_append,
    List.map_append, ← ignoreList_eq, ← ignoreList_eq]

/-- Names that a list can give are given by the list of them. -/
theorem ignoreList_intercalate {names : List String} (listed : ∀ name ∈ names, ListedName name) :
    ignoreList (",".intercalate names) = names := by
  by_cases none : names = []
  · subst none
    rfl
  · have pieces : (",".intercalate names).toList.splitOn ',' = names.map String.toList := by
      rw [String.toList_intercalate]
      refine List.splitOn_intercalate ',' ?_ (by simpa using none)
      intro piece member
      obtain ⟨name, isName, rfl⟩ := List.mem_map.mp member
      exact (listed name isName).commaless
    have trimmed : (names.map String.toList).map Text.trim = names.map String.toList := by
      rw [List.map_map]
      exact List.map_congr_left fun name member => Text.trim_of_bare (listed name member).bare
    have kept : (names.map String.toList).filter (!·.isEmpty) = names.map String.toList := by
      rw [List.filter_eq_self]
      intro piece member
      obtain ⟨name, isName, rfl⟩ := List.mem_map.mp member
      simpa using (listed name isName).nonempty
    rw [ignoreList_eq, pieces, trimmed, kept, List.map_map]
    simp [Function.comp_def]

end CommandLine

namespace Plan

/-- A plan without some of its folders, which are then among the excluded ones. -/
def leaving (plan : Plan) (left : RunFolder → Prop) [DecidablePred left] : Plan :=
  ⟨plan.folders.filter fun run => ¬left run,
    plan.excluded ++ (plan.folders.filter fun run => left run).map (·.folder)⟩

theorem ofNames_eq_leaving {left : RunFolder → Prop} [DecidablePred left] {exclude : List String}
    (leaves : ∀ run : RunFolder, left run ↔ run.isNamedBy exclude = true) (input : Bytes)
    (names : List Bytes) :
    ofNames input exclude names = (ofNames input [] names).leaving left := by
  have same (name : Bytes) :
      left (RunFolder.ofEntry input name) ↔ Excludes exclude (Text.display name) :=
    (leaves _).trans RunFolder.isNamedBy_ofFolder_iff
  have named (name : Bytes) : (RunFolder.ofEntry input name).folder = Text.display name :=
    RunFolder.folder_ofFolder _ _
  simp [ofNames, leaving, not_excludes_nil, List.filter_map, Function.comp_def, same, named]

/-- To leave folders out while planning is to plan all of them and then leave some out. -/
theorem ofTree_eq_map_leaving {left : RunFolder → Prop} [DecidablePred left]
    {exclude : List String} (leaves : ∀ run : RunFolder, left run ↔ run.isNamedBy exclude = true)
    (tree : FileTree) (here : Location) (input : Bytes) :
    ofTree tree here input exclude =
      (ofTree tree here input []).map fun plan => plan.leaving left := by
  rcases ofTree_cases tree here input with ⟨fault, failed⟩ | ⟨root, located, noDirectory⟩ |
    ⟨root, inside⟩
  · rw [ofTree_of_locate_error failed, ofTree_of_locate_error failed]
    rfl
  · rw [ofTree_of_no_directory located noDirectory, ofTree_of_no_directory located noDirectory]
    rfl
  · rw [ofTree_of_directory inside, ofTree_of_directory inside, ofNames_eq_leaving leaves]
    cases (tree.sortedChildren root).findSome? _ <;> rfl

end Plan

namespace CommandLine

/-- The settings or the arguments tell to ignore a name: it is not empty, and it is an item of the
settings as it stands there, or a piece of the argument without the white space around it. -/
def Ignores (settings : Settings) (a : Arguments) (name : String) : Prop :=
  name ≠ "" ∧ (name ∈ settings.collect.ignoreFolders ∨
    ∃ piece ∈ a.ignore.toList.splitOn ',', Text.Trims piece name.toList)

/-- A folder is to be left out for its own name or for that of its run. -/
def Ignored (settings : Settings) (a : Arguments) (run : RunFolder) : Prop :=
  Ignores settings a run.folder ∨ Ignores settings a run.runName

variable {settings : Settings} {a : Arguments}

theorem ignores_iff_mem_ignoredFolders {name : String} :
    Ignores settings a name ↔ name ≠ "" ∧ name ∈ ignoredFolders settings a := by
  rw [Ignores, ignoredFolders, List.mem_append, mem_ignoreList_iff]
  apply and_congr_right
  intro nonempty
  simp only [nonempty, not_false_eq_true, true_and, ne_eq]

/-- The lists of the settings and of the arguments are merged to the one that the plan goes by. -/
theorem ignored_iff_isNamedBy {run : RunFolder} :
    Ignored settings a run ↔ run.isNamedBy (ignoredFolders settings a) = true := by
  simp only [Ignored, ignores_iff_mem_ignoredFolders, RunFolder.isNamedBy, List.any_eq_true,
    Bool.and_eq_true, bne_iff_ne, Bool.or_eq_true, beq_iff_eq]
  constructor
  · rintro (⟨nonempty, member⟩ | ⟨nonempty, member⟩)
    · exact ⟨run.folder, member, nonempty, Or.inl rfl⟩
    · exact ⟨run.runName, member, nonempty, Or.inr rfl⟩
  · rintro ⟨item, member, nonempty, rfl | rfl⟩
    · exact Or.inl ⟨nonempty, member⟩
    · exact Or.inr ⟨nonempty, member⟩

instance (settings : Settings) (a : Arguments) : DecidablePred (Ignored settings a) := fun run =>
  decidable_of_iff (run.isNamedBy (ignoredFolders settings a) = true) ignored_iff_isNamedBy.symm

section Driver

variable {s : Surroundings} {all : Plan}

/-- The plan of a run is that of all folders without those to be left out. -/
theorem ofTree_ignoredFolders (s : Surroundings) (a : Arguments) (settings : Settings) :
    Plan.ofTree s.tree s.here a.input (ignoredFolders settings a) =
      (Plan.ofTree s.tree s.here a.input []).map fun all => all.leaving (Ignored settings a) :=
  Plan.ofTree_eq_map_leaving (fun _ => ignored_iff_isNamedBy) s.tree s.here a.input

theorem dryRun_of_plan (planned : Plan.ofTree s.tree s.here a.input [] = .ok all) :
    dryRun s a settings =
      ⟨(all.leaving (Ignored settings a)).render a.input, s.tree, .ok ()⟩ := by
  rw [dryRun, ofTree_ignoredFolders, planned]
  rfl

theorem collectStep_of_plan (planned : Plan.ofTree s.tree s.here a.input [] = .ok all)
    {rule : LineRule} (accepted : Settings.rule settings.collect = .ok rule) :
    collectStep s a settings =
      ((collector settings rule).collectPlan (s.tree.logState s.here)
        (all.leaving (Ignored settings a))).mapError (.collect a.input) := by
  have kept : Plan.ofTree s.tree s.here a.input (ignoredFolders settings a) =
      .ok (all.leaving (Ignored settings a)) := by
    rw [ofTree_ignoredFolders, planned]
    rfl
  rw [collectStep_of_rule accepted, Collector.collect_eq_of_ofTree kept]

end Driver

end CommandLine

open CommandLine in
/-- A list of names is cut at its commas only. Each of its names is not empty, has no comma in it and
no white space at its ends; two lists with a comma between them give the names of the one and then
those of the other; and names of this kind, joined by commas, are given back, so that the names of a
list can be joined and read again. A folder is named by the two lists of a run if its name, or that
of its run, is an item of the settings or a piece of the argument without the white space around it,
and is not empty; and a run plans, and scans, all folders but those, which it counts as excluded. -/
theorem ignoreList_tells_exclusion :
    (∀ list, ∀ name ∈ ignoreList list,
      name ≠ "" ∧ ',' ∉ name.toList ∧ Text.Bare name.toList) ∧
    (∀ first second,
      ignoreList (first ++ "," ++ second) = ignoreList first ++ ignoreList second) ∧
    (∀ names : List String,
      (∀ name ∈ names, name ≠ "" ∧ ',' ∉ name.toList ∧ Text.Bare name.toList) →
      ignoreList (",".intercalate names) = names) ∧
    (∀ list, ignoreList (",".intercalate (ignoreList list)) = ignoreList list) ∧
    (∀ (settings : Settings) (a : Arguments) (run : RunFolder),
      run.isNamedBy (ignoredFolders settings a) = true ↔
        Ignores settings a run.folder ∨ Ignores settings a run.runName) ∧
    ∀ (s : Surroundings) (a : Arguments) (settings : Settings),
      Plan.ofTree s.tree s.here a.input (ignoredFolders settings a) =
        (Plan.ofTree s.tree s.here a.input []).map
          (fun all => all.leaving (Ignored settings a)) ∧
      ∀ all, Plan.ofTree s.tree s.here a.input [] = .ok all →
        dryRun s a settings =
          ⟨(all.leaving (Ignored settings a)).render a.input, s.tree, .ok ()⟩ ∧
        ∀ rule, Settings.rule settings.collect = .ok rule →
          collectStep s a settings =
            ((collector settings rule).collectPlan (s.tree.logState s.here)
              (all.leaving (Ignored settings a))).mapError (.collect a.input) := by
  refine ⟨?_, ignoreList_append_comma, ?_, ?_, fun _ _ _ => ignored_iff_isNamedBy.symm, ?_⟩
  · intro list name member
    have listed := listedName_of_mem_ignoreList member
    exact ⟨listed.nonempty, listed.commaless, listed.bare⟩
  · intro names listed
    refine ignoreList_intercalate ?_
    intro name member
    obtain ⟨nonempty, commaless, bare⟩ := listed name member
    exact ⟨nonempty, commaless, bare⟩
  · intro list
    exact ignoreList_intercalate fun name member => listedName_of_mem_ignoreList member
  · intro s a settings
    refine ⟨ofTree_ignoredFolders s a settings, ?_⟩
    intro all planned
    exact ⟨dryRun_of_plan planned, fun rule accepted => collectStep_of_plan planned accepted⟩

/-- The names of a list, one of them with a blank inside, are joined and read again, and pieces of
blanks alone are no names. The one folder of a run is left out if the argument names its run among
such pieces. -/
theorem ignoreList_tells_exclusion_oneRun :
    let s : CommandLine.Surroundings := ⟨oneRun, [], ⟨0, 0⟩⟩
    let a : CommandLine.Arguments := { reportTo "summary.json" false with ignore := "b, \t, a ," }
    CommandLine.ignoreList (" a b\t,, \u3000 " ++ "," ++ "run-1 ,") = ["a b", "run-1"] ∧
    CommandLine.ignoreList (",".intercalate ["a b", "run-1"]) = ["a b", "run-1"] ∧
    RunFolder.isNamedBy (.ofFolder (Path.ofString "./a-1") "a-1")
      (CommandLine.ignoredFolders oneBenchmark a) = true ∧
    CommandLine.dryRun s a oneBenchmark =
      ⟨Plan.render ⟨[], ["a-1"]⟩ (Path.ofString "."), oneRun, .ok ()⟩ ∧
    CommandLine.collectStep s a oneBenchmark = .ok ⟨.new ["vgg16"], [], 0⟩ := by
  intro s a
  obtain ⟨names, parts, joined, -, named, driver⟩ := ignoreList_tells_exclusion
  obtain ⟨dry, collects⟩ := (driver s a oneBenchmark).2 _ oneRun_planned
  have cut : CommandLine.ignoreList (" a b\t,, \u3000 " ++ "," ++ "run-1 ,") =
      ["a b", "run-1"] := by
    rw [parts]
    decide +kernel
  let folder : RunFolder := .ofFolder (Path.ofString "./a-1") "a-1"
  have ignored : CommandLine.Ignores oneBenchmark a folder.runName := by
    have runName : folder.runName.toList = ['a'] := by decide +kernel
    refine ⟨by decide, Or.inr ⟨[' ', 'a', ' '], by decide, ?_⟩⟩
    rw [runName]
    have blank : ∀ c ∈ [' '], Text.isBlank c = true := List.forall_mem_singleton.mpr rfl
    have bare : ∀ c ∈ some 'a', Text.isBlank c = false := by
      rintro c ⟨⟩
      rfl
    exact ⟨⟨[' '], [' '], rfl, blank, blank⟩, bare, bare⟩
  have left : Plan.leaving ⟨[folder], []⟩ (CommandLine.Ignored oneBenchmark a) = ⟨[], ["a-1"]⟩ := by
    decide +kernel
  refine ⟨cut, joined _ ?_, (named oneBenchmark a folder).mpr (Or.inr ignored), ?_, ?_⟩
  · rw [← cut]
    exact names _
  · rw [dry, left]
    rfl
  · rw [collects .standard rfl, left]
    rfl

end Occupancy
