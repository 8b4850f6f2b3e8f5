/-
Module: Occupancy.Proofs.SettingsSearch
Purpose: Which settings file decides, and that those further out never do.
Main exports: Settings.discover_concat, Settings.Search, Settings.Nearest, Settings.NoneAround,
  Settings.Search.outcome, Settings.ChangesAside, Settings.DecidedThrough, discover_tells_nearest
-/
import Mathlib
import Occupancy.CommandLine.Run
import Occupancy.Proofs.PathNames
import Occupancy.Proofs.TreeChanges

namespace Occupancy

/-!
The search for a settings file goes outwards from a directory and stops in one of two ways: at the
first directory in which the name of the file leads to something, or at the top. `Search` is this
loop with the directories that it has looked at; each turn leaves out one name of the directory, so
there are no more turns than names, and one more for the top. What it finds is told by `Nearest`,
which speaks of no loop: the innermost directory around that has such a file.

The file is looked for at its absolute path. In a current directory, which is there with all the
directories around it, this path leads where the name leads in the directory, unless it is too long:
then there is no such file for the search, which goes on outwards to shorter paths.

A change of the file in another directory can be noticed only by following a link. The path by itself
makes a walk look at the directories on the way and at the entry of the file's name, and these have
not changed. So if neither the file that decided before nor the one that decides afterwards is a link
through what has changed, both are the same file, and it reads as before. Both have to be asked: a
link further in that led nowhere may lead to a file that is added, and then decides.
-/

namespace Settings

theorem plainName_fileName : FileTree.PlainName fileName where
  part := by decide
  slashless := by decide
  nulless := by decide
  fits := by decide

section Discovery

variable {tree : FileTree} {directory deciding : Location}

theorem ancestors_concat (outer : Location) (name : Bytes) :
    ancestors (outer ++ [name]) = (outer ++ [name]) :: ancestors outer := by
  have further : ∀ n ∈ (List.range (outer.length + 1)).reverse,
      (outer ++ [name]).take n = outer.take n := by
    intro n member
    rw [List.mem_reverse, List.mem_range] at member
    exact List.take_append_of_le_length (Nat.le_of_lt_succ member)
  rw [ancestors, List.length_append, List.length_singleton, List.range_succ, List.reverse_append,
    List.reverse_singleton, List.singleton_append, List.map_cons, List.map_congr_left further,
    List.take_of_length_le (by simp), ← ancestors]

/-- The directories around are those whose location is a beginning of the directory's. -/
theorem mem_ancestors_iff {other : Location} : other ∈ ancestors directory ↔ other <+: directory := by
  induction directory using List.reverseRecOn with
  | nil => simp [ancestors]
  | append_singleton outer name inductionHypothesis =>
      rw [ancestors_concat, List.mem_cons, inductionHypothesis, List.prefix_concat_iff]

/-- They stand in the list from the innermost outwards. -/
theorem pairwise_ancestors (directory : Location) :
    (ancestors directory).Pairwise fun inner outer => outer <+: inner ∧ outer ≠ inner := by
  induction directory using List.reverseRecOn with
  | nil => simp [ancestors]
  | append_singleton outer name inductionHypothesis =>
      rw [ancestors_concat, List.pairwise_cons]
      refine ⟨?_, inductionHypothesis⟩
      intro further member
      have shorter := mem_ancestors_iff.mp member
      refine ⟨shorter.trans (List.prefix_append _ _), ?_⟩
      rintro rfl
      simpa using shorter.length_le

theorem length_ancestors (directory : Location) :
    (ancestors directory).length = directory.length + 1 := by
  simp [ancestors]

/-- What a directory says of the search: its file decides, or the search goes on. -/
theorem here?_eq (tree : FileTree) (directory : Location) :
    here? tree directory =
      if tree.pathExists [] (filePath directory) then
        some (load tree [] (filePath directory)).toOption
      else none := rfl

/-- A turn of the search. -/
theorem discover_concat (tree : FileTree) (outer : Location) (name : Bytes) :
    discover tree (outer ++ [name]) =
      if tree.pathExists [] (filePath (outer ++ [name])) then
        (load tree [] (filePath (outer ++ [name]))).toOption
      else discover tree outer := by
  rw [discover, ancestors_concat, List.findSome?_cons, here?_eq]
  cases tree.pathExists [] (filePath (outer ++ [name])) <;> rfl

theorem discover_nil (tree : FileTree) :
    discover tree [] =
      if tree.pathExists [] (filePath []) then (load tree [] (filePath [])).toOption else none := by
  have top : ancestors [] = [[]] := rfl
  rw [discover, top, List.findSome?_cons, here?_eq]
  cases tree.pathExists [] (filePath []) <;> rfl

/-- The search from a directory looks at these directories, in this order, and finds these settings.
It stops where the file is, or else at the top. -/
inductive Search (tree : FileTree) : Location → List Location → Option Settings → Prop where
  | decided {directory : Location} (there : tree.pathExists [] (filePath directory) = true) :
      Search tree directory [directory] (load tree [] (filePath directory)).toOption
  | top (absent : tree.pathExists [] (filePath []) = false) : Search tree [] [[]] none
  | outward {outer : Location} {name : Bytes} {visited : List Location} {found : Option Settings}
      (absent : tree.pathExists [] (filePath (outer ++ [name])) = false)
      (further : Search tree outer visited found) :
      Search tree (outer ++ [name]) ((outer ++ [name]) :: visited) found

/-- Every search comes to an end. -/
theorem exists_search (tree : FileTree) (directory : Location) :
    ∃ visited, Search tree directory visited (discover tree directory) := by
  induction directory using List.reverseRecOn with
  | nil =>
      refine ⟨[[]], ?_⟩
      rw [discover_nil]
      cases there : tree.pathExists [] (filePath []) with
      | true => exact .decided there
      | false => exact .top there
  | append_singleton outer name inductionHypothesis =>
      rw [discover_concat]
      cases there : tree.pathExists [] (filePath (outer ++ [name])) with
      | true => exact ⟨_, .decided there⟩
      | false =>
          obtain ⟨visited, further⟩ := inductionHypothesis
          exact ⟨_, .outward there further⟩

/-- The innermost directory around that has a settings file. -/
structure Nearest (tree : FileTree) (directory deciding : Location) : Prop where
  around : deciding <+: directory
  there : tree.pathExists [] (filePath deciding) = true
  innermost : ∀ other, other <+: directory → tree.pathExists [] (filePath other) = true →
    other <+: deciding

/-- No directory around has a settings file. -/
def NoneAround (tree : FileTree) (directory : Location) : Prop :=
  ∀ other, other <+: directory → tree.pathExists [] (filePath other) = false

theorem Nearest.unique {other : Location} (nearest : Nearest tree directory deciding)
    (alsoNearest : Nearest tree directory other) : deciding = other :=
  (alsoNearest.innermost _ nearest.around nearest.there).eq_of_length_le
    (nearest.innermost _ alsoNearest.around alsoNearest.there).length_le

theorem Nearest.of_there (there : tree.pathExists [] (filePath directory) = true) :
    Nearest tree directory directory where
  around := List.prefix_rfl
  there := there
  innermost := fun _ around _ => around

theorem Nearest.concat {outer : Location} {name : Bytes} (nearest : Nearest tree outer deciding)
    (absent : tree.pathExists [] (filePath (outer ++ [name])) = false) :
    Nearest tree (outer ++ [name]) deciding where
  around := nearest.around.trans (List.prefix_append _ _)
  there := nearest.there
  innermost := by
    intro other around there
    rcases List.prefix_concat_iff.mp around with rfl | further
    · cases absent.symm.trans there
    · exact nearest.innermost other further there

theorem NoneAround.concat {outer : Location} {name : Bytes} (nowhere : NoneAround tree outer)
    (absent : tree.pathExists [] (filePath (outer ++ [name])) = false) :
    NoneAround tree (outer ++ [name]) := by
  intro other around
  rcases List.prefix_concat_iff.mp around with rfl | further
  · exact absent
  · exact nowhere other further

/-- A search looks at the directories from the innermost outwards, up to the one that decides, and
finds the settings of this one or none; if none decides it looks at all of them and finds nothing. -/
theorem Search.outcome {visited : List Location} {found : Option Settings}
    (search : Search tree directory visited found) :
    visited <+: ancestors directory ∧
      ((∃ deciding, Nearest tree directory deciding ∧ visited.getLast? = some deciding ∧
          found = (load tree [] (filePath deciding)).toOption) ∨
        (NoneAround tree directory ∧ visited = ancestors directory ∧ found = none)) := by
  induction search with
  | @decided directory there =>
      refine ⟨?_, Or.inl ⟨directory, .of_there there, rfl, rfl⟩⟩
      induction directory using List.reverseRecOn with
      | nil => exact List.prefix_rfl
      | append_singleton outer name _ =>
          rw [ancestors_concat]
          exact List.prefix_append [_] _
  | top absent =>
      refine ⟨List.prefix_rfl, Or.inr ⟨?_, rfl, rfl⟩⟩
      intro other around
      rw [List.prefix_nil.mp around]
      exact absent
  | @outward outer name visited found absent further inductionHypothesis =>
      obtain ⟨inOrder, ending⟩ := inductionHypothesis
      rw [ancestors_concat, List.prefix_cons_inj]
      refine ⟨inOrder, ?_⟩
      rcases ending with ⟨deciding, nearest, last, rfl⟩ | ⟨nowhere, rfl, rfl⟩
      · refine Or.inl ⟨deciding, nearest.concat absent, ?_, rfl⟩
        rw [List.getLast?_cons, last]
        rfl
      · exact Or.inr ⟨nowhere.concat absent, rfl, rfl⟩

theorem not_nearest_of_noneAround (nowhere : NoneAround tree directory) :
    ¬Nearest tree directory deciding := by
  intro nearest
  cases (nowhere deciding nearest.around).symm.trans nearest.there

theorem nearest_or_noneAround (tree : FileTree) (directory : Location) :
    (∃ deciding, Nearest tree directory deciding) ∨ NoneAround tree directory := by
  obtain ⟨visited, search⟩ := exists_search tree directory
  rcases search.outcome.2 with ⟨deciding, nearest, -, -⟩ | ⟨nowhere, -, -⟩
  · exact Or.inl ⟨deciding, nearest⟩
  · exact Or.inr nowhere

/-- The nearest file alone decides. -/
theorem Nearest.discover_eq (nearest : Nearest tree directory deciding) :
    discover tree directory = (load tree [] (filePath deciding)).toOption := by
  obtain ⟨visited, search⟩ := exists_search tree directory
  rcases search.outcome.2 with ⟨other, alsoNearest, -, found⟩ | ⟨nowhere, -, -⟩
  · rw [found, nearest.unique alsoNearest]
  · exact absurd nearest (not_nearest_of_noneAround nowhere)

theorem NoneAround.discover_eq (nowhere : NoneAround tree directory) :
    discover tree directory = none := by
  obtain ⟨visited, search⟩ := exists_search tree directory
  rcases search.outcome.2 with ⟨deciding, nearest, -, -⟩ | ⟨-, -, found⟩
  · exact absurd nearest (not_nearest_of_noneAround nowhere)
  · exact found

section Found

variable {other : FileTree} {here otherHere : Location} {path otherPath : Bytes}

theorem pathExists_eq_of_find (same : other.find otherHere otherPath = tree.find here path) :
    other.pathExists otherHere otherPath = tree.pathExists here path := by
  rw [FileTree.pathExists, FileTree.pathExists, same]

theorem toOption_load (tree : FileTree) (here : Location) (path : Bytes) :
    (load tree here path).toOption = (tree.readText here path).toOption.bind parse := by
  rw [load]
  cases tree.readText here path with
  | error fault => rfl
  | ok text =>
      simp only [Except.mapError, bind, Except.bind, Except.toOption, Option.bind_some]
      cases parse text <;> rfl

/-- The settings of a file are told by what its path leads to. -/
theorem toOption_load_eq_of_find
    (same : other.find otherHere otherPath = tree.find here path) :
    (load other otherHere otherPath).toOption = (load tree here path).toOption := by
  rw [toOption_load, toOption_load, FileTree.readText, FileTree.readText, FileTree.read,
    FileTree.read, same]

end Found

/-- The path of the file has the names on the way to the directory in it, and then its own. -/
theorem filePath_eq (names : ∀ name ∈ directory, FileTree.PlainName name) :
    filePath directory =
      (directory ++ [Path.ofString "occstat.toml"]).flatMap (0x2F :: ·) :=
  join_ofLocation names plainName_fileName

end Discovery

section Aside

variable {tree other : FileTree} {directory outer deciding : Location}

/-- Two trees have the same directories around a directory, and the same entry of the file's name in
each of them but one. This one may also lie elsewhere, and then they differ in none of them. -/
structure ChangesAside (tree other : FileTree) (directory outer : Location) : Prop where
  around : ∀ inner, inner <+: directory → other.lookup inner = tree.lookup inner
  files : ∀ inner, inner <+: directory → inner ≠ outer →
    other.lookup (inner ++ [fileName]) = tree.lookup (inner ++ [fileName])

/-- What decides is a link, and its path leads through some of these locations. -/
def DecidedThrough (tree : FileTree) (directory : Location) (changed : Location → Prop) : Prop :=
  ∃ deciding target, Nearest tree directory deciding ∧
    tree.lookup (deciding ++ [fileName]) = some (.link target) ∧
    ¬tree.Avoids [] (filePath deciding) changed

/-- The entry of the name in one directory may be changed, with all that is below it, as long as the
current directory is not. -/
theorem changesAside_of_elsewhere
    (elsewhere : ∀ location, ¬outer ++ [fileName] <+: location →
      other.lookup location = tree.lookup location)
    (outside : ¬outer ++ [fileName] <+: directory) : ChangesAside tree other directory outer where
  around := fun inner around => elsewhere inner fun below => outside (below.trans around)
  files := by
    intro inner around differs
    refine elsewhere _ fun below => ?_
    rcases List.prefix_concat_iff.mp below with same | further
    · exact differs (List.append_cancel_right same).symm
    · exact outside (further.trans around)

theorem changesAside_put (outside : ¬outer ++ [fileName] <+: directory) (node : Node) :
    ChangesAside tree (tree.put (outer ++ [fileName]) node) directory outer := by
  refine changesAside_of_elsewhere (fun location apart => ?_) outside
  rw [FileTree.lookup_put tree node (by simp), if_neg]
  rintro rfl
  exact apart List.prefix_rfl

theorem changesAside_without (outside : ¬outer ++ [fileName] <+: directory) :
    ChangesAside tree (tree.without outer [fileName]) directory outer := by
  refine changesAside_of_elsewhere (fun location apart => ?_) outside
  rw [FileTree.lookup_without, if_neg]
  simpa [FileTree.Within] using apart

theorem ChangesAside.symm (aside : ChangesAside tree other directory outer) :
    ChangesAside other tree directory outer where
  around := fun inner around => (aside.around inner around).symm
  files := fun inner around differs => (aside.files inner around differs).symm

/-- The current directory stays. -/
theorem ChangesAside.real (aside : ChangesAside tree other directory outer)
    (real : RealDirectory tree directory) : RealDirectory other directory where
  names := real.names
  standing := fun front around => (aside.around front around).trans (real.standing front around)

/-- A file that decides, and is neither the changed one nor a link through what has changed, is found
as before. -/
theorem Nearest.find_eq (real : RealDirectory tree directory)
    (nearest : Nearest tree directory deciding) (aside : ChangesAside tree other directory outer)
    (differs : deciding ≠ outer)
    (direct : ¬DecidedThrough tree directory fun location =>
      other.lookup location ≠ tree.lookup location) :
    other.find [] (filePath deciding) = tree.find [] (filePath deciding) := by
  refine FileTree.find_of_agree fun location mark => ?_
  by_cases link : ∃ target, tree.lookup (deciding ++ [fileName]) = some (.link target)
  · obtain ⟨target, there⟩ := link
    by_contra changed
    exact direct ⟨deciding, target, nearest, there, fun avoids => avoids location mark changed⟩
  · rw [not_exists] at link
    rcases footprint_absolute_of_no_link (real.of_prefix nearest.around) plainName_fileName link
      location mark with around | rfl
    · exact aside.around _ (around.trans nearest.around)
    · exact aside.files deciding nearest.around differs

theorem Nearest.there_of_changesAside (real : RealDirectory tree directory)
    (nearest : Nearest tree directory deciding) (aside : ChangesAside tree other directory outer)
    (differs : deciding ≠ outer)
    (direct : ¬DecidedThrough tree directory fun location =>
      other.lookup location ≠ tree.lookup location) :
    other.pathExists [] (filePath deciding) = true := by
  rw [pathExists_eq_of_find (nearest.find_eq real aside differs direct), nearest.there]

/-- A change of the file further out than the one that decides, or aside, is not noticed, unless
what decides before or after it is a link through what has changed. -/
theorem discover_of_changesAside (real : RealDirectory tree directory)
    (aside : ChangesAside tree other directory outer)
    (further : ¬outer <+: directory ∨
      ∃ deciding, Nearest tree directory deciding ∧ outer <+: deciding ∧ outer ≠ deciding)
    (directBefore : ¬DecidedThrough tree directory fun location =>
      other.lookup location ≠ tree.lookup location)
    (directAfter : ¬DecidedThrough other directory fun location =>
      other.lookup location ≠ tree.lookup location) :
    discover other directory = discover tree directory := by
  have directBack : ¬DecidedThrough other directory fun location =>
      tree.lookup location ≠ other.lookup location := by
    simpa only [ne_comm] using directAfter
  have realAfter := aside.real real
  rcases nearest_or_noneAround tree directory with ⟨deciding, nearest⟩ | nowhere
  · have differs : deciding ≠ outer := by
      rintro rfl
      rcases further with notAround | ⟨inner, alsoNearest, -, differs⟩
      · exact notAround nearest.around
      · exact differs (nearest.unique alsoNearest)
    have still := nearest.there_of_changesAside real aside differs directBefore
    rcases nearest_or_noneAround other directory with ⟨afterwards, nearestAfter⟩ | nowhereAfter
    · -- What decides now is not further out than before, so it is not the changed file either.
      have inside := nearestAfter.innermost deciding nearest.around still
      have alsoDiffers : afterwards ≠ outer := by
        rintro rfl
        rcases further with notAround | ⟨inner, alsoNearest, around, differs⟩
        · exact notAround nearestAfter.around
        · rw [nearest.unique alsoNearest] at inside
          exact differs (around.eq_of_length_le inside.length_le)
      have before := nearestAfter.there_of_changesAside realAfter aside.symm alsoDiffers directBack
      have same : afterwards = deciding :=
        (nearest.innermost afterwards nearestAfter.around before).eq_of_length_le inside.length_le
      rw [nearest.discover_eq, nearestAfter.discover_eq, same,
        toOption_load_eq_of_find (nearest.find_eq real aside differs directBefore)]
    · cases (nowhereAfter deciding nearest.around).symm.trans still
  · have notAround : ¬outer <+: directory := by
      rcases further with notAround | ⟨deciding, nearest, -, -⟩
      · exact notAround
      · exact absurd nearest (not_nearest_of_noneAround nowhere)
    rcases nearest_or_noneAround other directory with ⟨afterwards, nearestAfter⟩ | nowhereAfter
    · have differs : afterwards ≠ outer := by
        rintro rfl
        exact notAround nearestAfter.around
      have before := nearestAfter.there_of_changesAside realAfter aside.symm differs directBack
      cases (nowhere afterwards nearestAfter.around).symm.trans before
    · rw [nowhere.discover_eq, nowhereAfter.discover_eq]

end Aside

section Driver

variable {s : CommandLine.Surroundings} {a : CommandLine.Arguments} {deciding : Location}

theorem settings_of_nearest_ok (unnamed : a.config = none)
    (nearest : Nearest s.tree s.here deciding) {loaded : Settings}
    (understood : load s.tree [] (filePath deciding) = .ok loaded) :
    discover s.tree s.here = some loaded ∧ CommandLine.settings s a = .ok loaded := by
  have found : discover s.tree s.here = some loaded := by
    rw [nearest.discover_eq, understood]
    rfl
  refine ⟨found, ?_⟩
  rw [CommandLine.settings, unnamed, found]
  rfl

theorem settings_of_discover_none (unnamed : a.config = none)
    (found : discover s.tree s.here = none) : CommandLine.settings s a = .ok standard := by
  rw [CommandLine.settings, unnamed, found]
  rfl

theorem discover_of_nearest_error {tree : FileTree} {directory : Location}
    (nearest : Nearest tree directory deciding) {error : SettingsError}
    (broken : load tree [] (filePath deciding) = .error error) : discover tree directory = none := by
  rw [nearest.discover_eq, broken]
  rfl

end Driver

end Settings

open Settings in
/-- The search for a settings file comes to an end in every directory. It looks at the directory and
at those around it from the innermost outwards, at none of them twice, and stops at the first one in
which the file is there. The file of a directory is looked for at its absolute path. In a current
directory, to be there is to have a path that is not too long and an entry that is a file or a
directory, or a link that leads somewhere. The first file that is there alone decides: if it can be
read the run goes by it, and if not nothing is found and the run goes by the standard settings,
whatever files there are further out; and so it does if there is no such file. To put something at the
place of the file in one directory, or to take it away, with all that is below it, leaves the others
alone; and if this directory is further out than the one that decides, or not around at all, what is
found does not change, as long as what decides before and after is no link through what has
changed. -/
theorem discover_tells_nearest :
    (∀ (tree : FileTree) (directory : Location),
      (∃ visited, Search tree directory visited (discover tree directory)) ∧
      ∀ visited found, Search tree directory visited found →
        found = discover tree directory ∧
        visited <+: ancestors directory ∧ visited.length ≤ directory.length + 1 ∧
        ((∃ deciding, Nearest tree directory deciding ∧ visited.getLast? = some deciding) ∨
          (NoneAround tree directory ∧ visited = ancestors directory))) ∧
    (∀ directory, (∀ outer, outer ∈ ancestors directory ↔ outer <+: directory) ∧
      (ancestors directory).Pairwise fun inner outer => outer <+: inner ∧ outer ≠ inner) ∧
    (∀ (tree : FileTree) (directory : Location), RealDirectory tree directory →
      ∀ inner, inner <+: directory →
        filePath inner = (inner ++ [Path.ofString "occstat.toml"]).flatMap (0x2F :: ·) ∧
        (tree.pathExists [] (filePath inner) = true ↔
          (filePath inner).length < 4096 ∧
            ∃ node, tree.lookup (inner ++ [fileName]) = some node ∧
              ∀ target, node = .link target → ∃ other, tree.LinkLeads inner target other)) ∧
    (∀ (s : CommandLine.Surroundings) (a : CommandLine.Arguments), a.config = none →
      (∀ deciding, Nearest s.tree s.here deciding →
        (∀ loaded, load s.tree [] (filePath deciding) = .ok loaded →
          discover s.tree s.here = some loaded ∧ CommandLine.settings s a = .ok loaded) ∧
        ∀ error, load s.tree [] (filePath deciding) = .error error →
          discover s.tree s.here = none ∧ CommandLine.settings s a = .ok standard) ∧
      (NoneAround s.tree s.here →
        discover s.tree s.here = none ∧ CommandLine.settings s a = .ok standard)) ∧
    (∀ (tree : FileTree) (directory outer : Location), ¬outer ++ [fileName] <+: directory →
      (∀ node, ChangesAside tree (tree.put (outer ++ [fileName]) node) directory outer) ∧
        ChangesAside tree (tree.without outer [fileName]) directory outer) ∧
    ∀ (tree other : FileTree) (directory outer : Location), RealDirectory tree directory →
      ChangesAside tree other directory outer →
      (¬outer <+: directory ∨
        ∃ deciding, Nearest tree directory deciding ∧ outer <+: deciding ∧ outer ≠ deciding) →
      discover other directory = discover tree directory ∨
        DecidedThrough tree directory (fun location =>
          other.lookup location ≠ tree.lookup location) ∨
        DecidedThrough other directory fun location =>
          other.lookup location ≠ tree.lookup location := by
  refine ⟨?_, fun directory => ⟨fun outer => mem_ancestors_iff, pairwise_ancestors directory⟩,
    ?_, ?_,
    fun tree directory outer outside => ⟨changesAside_put outside, changesAside_without outside⟩, ?_⟩
  · intro tree directory
    refine ⟨exists_search tree directory, ?_⟩
    intro visited found search
    obtain ⟨inOrder, ending⟩ := search.outcome
    have bounded : visited.length ≤ directory.length + 1 := by
      rw [← length_ancestors]
      exact inOrder.length_le
    rcases ending with ⟨deciding, nearest, last, rfl⟩ | ⟨nowhere, whole, rfl⟩
    · exact ⟨nearest.discover_eq.symm, inOrder, bounded, Or.inl ⟨deciding, nearest, last⟩⟩
    · exact ⟨nowhere.discover_eq.symm, inOrder, bounded, Or.inr ⟨nowhere, whole⟩⟩
  · intro tree directory real inner around
    have standing := real.of_prefix around
    exact ⟨filePath_eq standing.names, pathExists_absolute_iff standing plainName_fileName⟩
  · intro s a unnamed
    refine ⟨?_, ?_⟩
    · intro deciding nearest
      refine ⟨fun loaded => settings_of_nearest_ok unnamed nearest, ?_⟩
      intro error broken
      have found := discover_of_nearest_error nearest broken
      exact ⟨found, settings_of_discover_none unnamed found⟩
    · intro nowhere
      exact ⟨nowhere.discover_eq, settings_of_discover_none unnamed nowhere.discover_eq⟩
  · intro tree other directory outer real aside further
    by_cases before : DecidedThrough tree directory fun location =>
        other.lookup location ≠ tree.lookup location
    · exact Or.inr (Or.inl before)
    · by_cases after : DecidedThrough other directory fun location =>
          other.lookup location ≠ tree.lookup location
      · exact Or.inr (Or.inr after)
      · exact Or.inl (discover_of_changesAside real aside further before after)

/-- The file at the top names a spreadsheet. In `outer` a directory has the name of the file, and in
the directory inside of it so has a link that leads nowhere. -/
def nestedTree : FileTree :=
  let outer := Path.ofString "outer"
  let inner := Path.ofString "inner"
  ⟨[([Settings.fileName], .file (.bytes (Path.ofString "[output]\nspreadsheet = \"top\"\n"))),
    ([outer], .directory), ([outer, Settings.fileName], .directory), ([outer, inner], .directory),
    ([outer, inner, Settings.fileName], .link (Path.ofString "away"))]⟩

/-- Seventeen directories inside each other, with names so long that the path of the last one is
refused. -/
def deepDirectory : Location := List.replicate 17 (List.replicate 250 0x61)

/-- There is a file in the last of the directories, and a file at the top that names a spreadsheet. -/
def deepTree : FileTree :=
  ⟨[([Settings.fileName], .file (.bytes (Path.ofString "[output]\nspreadsheet = \"top\"\n")))] ++
    (Settings.ancestors deepDirectory).dropLast.map (·, .directory) ++
    [(deepDirectory ++ [Settings.fileName], .file (.bytes []))]⟩

theorem real_nestedTree :
    RealDirectory nestedTree [Path.ofString "outer", Path.ofString "inner"] where
  names := by
    intro name member
    rcases List.mem_pair.mp member with rfl | rfl
    · exact ⟨by decide, by decide, by decide, by decide⟩
    · exact ⟨by decide, by decide, by decide, by decide⟩
  standing := by
    intro front around
    rcases List.mem_map.mp (Settings.mem_ancestors_iff.mpr around) with ⟨n, bound, rfl⟩
    fin_cases bound <;> rfl

theorem real_deepTree : RealDirectory deepTree deepDirectory where
  names := by
    intro name member
    obtain rfl := List.eq_of_mem_replicate member
    exact ⟨by decide +kernel, by decide +kernel, by decide +kernel, by decide +kernel⟩
  standing := by
    intro front around
    by_cases top : front = []
    · subst top
      rfl
    · have distinct : deepTree.Distinct := by
        rw [FileTree.Distinct]
        decide +kernel
      have listed : front ∈ (Settings.ancestors deepDirectory).dropLast :=
        List.mem_dropLast_of_mem_of_ne_getLast (Settings.mem_ancestors_iff.mpr around) top
      rw [distinct.lookup_eq_some_iff top]
      exact List.mem_append_left _ (List.mem_append_right _ (List.mem_map_of_mem listed))

theorem nearest_deepTree : Settings.Nearest deepTree deepDirectory [] where
  around := List.nil_prefix
  there := by decide +kernel
  innermost := by
    intro inner around there
    have files : ∀ inner ∈ Settings.ancestors deepDirectory,
        (deepTree.lookup (inner ++ [Settings.fileName])).isSome = true →
          inner = [] ∨ inner = deepDirectory := by
      decide +kernel
    have standing := real_deepTree.of_prefix around
    obtain ⟨short, node, found, -⟩ :=
      (pathExists_absolute_iff standing Settings.plainName_fileName).mp there
    rcases files inner (Settings.mem_ancestors_iff.mpr around) (by rw [found]; rfl) with rfl | rfl
    · exact List.prefix_rfl
    · exact absurd short (by decide +kernel)

open Settings in
/-- In the first tree the directory decides, so that the run goes by the standard settings, and nothing
that may be put at the top is noticed. In the second one the file in the last directory is passed over
because its path is too long, and the one at the top decides. -/
theorem discover_tells_nearest_nested :
    let here : Location := [Path.ofString "outer", Path.ofString "inner"]
    let a : CommandLine.Arguments := ⟨false, none, false, Path.ofString ".", "", none, none, false⟩
    let named : Settings := { standard with output := ⟨"top", none⟩ }
    CommandLine.settings ⟨nestedTree, here, ⟨0, 0⟩⟩ a = .ok standard ∧
    (∀ node, discover (nestedTree.put ([] ++ [fileName]) node) here = discover nestedTree here) ∧
    deepTree.pathExists [] (filePath deepDirectory) = false ∧
    CommandLine.settings ⟨deepTree, deepDirectory, ⟨0, 0⟩⟩ a = .ok named := by
  intro here a named
  obtain ⟨-, -, entries, decides, changes, aside⟩ := discover_tells_nearest
  let outer : Location := [Path.ofString "outer"]
  have nearest : Nearest nestedTree (outer ++ [Path.ofString "inner"]) outer :=
    (Nearest.of_there (by decide +kernel)).concat (by decide +kernel)
  have nearestAfter (node : Node) : Nearest (nestedTree.put ([] ++ [fileName]) node)
      (outer ++ [Path.ofString "inner"]) outer := (Nearest.of_there rfl).concat rfl
  refine ⟨?_, ?_, ?_, ?_⟩
  · exact (((decides ⟨nestedTree, here, ⟨0, 0⟩⟩ a rfl).1 _ nearest).2 _ rfl).2
  · intro node
    have apart := (changes nestedTree here [] (by decide)).1 node
    rcases aside _ _ here [] real_nestedTree apart
      (Or.inr ⟨_, nearest, List.nil_prefix, by decide⟩) with
      same | ⟨deciding, target, decides, link, -⟩ | ⟨deciding, target, decides, link, -⟩
    · exact same
    · rw [decides.unique nearest] at link
      cases link
    · rw [decides.unique (nearestAfter node)] at link
      cases link
  · obtain ⟨-, there⟩ := entries deepTree deepDirectory real_deepTree _ List.prefix_rfl
    rw [← Bool.not_eq_true, there, not_and_or]
    exact Or.inl (by decide +kernel)
  · exact (((decides ⟨deepTree, deepDirectory, ⟨0, 0⟩⟩ a rfl).1 _ nearest_deepTree).1 _ rfl).2

end Occupancy
