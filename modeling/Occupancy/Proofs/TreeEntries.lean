/-
Module: Occupancy.Proofs.TreeEntries
Purpose: The entries of a directory, and what it means to add one and to take some away.
Main exports: FileTree.Distinct, FileTree.distinct_of_ofEntries, FileTree.sortedChildren_ascending,
  FileTree.lookup_of_perm, FileTree.Adds, FileTree.without
-/
import Mathlib.Data.List.Sort
import Occupancy.FileTree.Build
import Occupancy.Plan
import Occupancy.Proofs.Folds

namespace Occupancy

/-!
A tree is a list of locations and of what stands there, in any order. Looking a location up gives
the first entry of it, while listing a directory gives all entries, so the two agree on trees that
list no location twice. Every tree that is made by the operations is one of these. On them the names
of a directory in ascending order are told by the look-ups alone, and hence do not depend on the
order in which the tree lists them.
-/

/-- The order of names is the lexicographic order of their bytes. -/
theorem bytesLe_iff_le {first second : Bytes} : bytesLe first second = true ↔ first ≤ second := by
  induction first generalizing second with
  | nil => simp [bytesLe]
  | cons a as inductionHypothesis =>
      cases second with
      | nil => simp [bytesLe]
      | cons b bs => simp [bytesLe, List.cons_le_cons_iff, inductionHypothesis]

theorem pairwise_mergeSort_bytesLe (names : List Bytes) :
    (names.mergeSort bytesLe).Pairwise (· ≤ ·) := by
  have transitive : ∀ a b c, bytesLe a b = true → bytesLe b c = true → bytesLe a c = true := by
    intro a b c ab bc
    rw [bytesLe_iff_le] at ab bc ⊢
    exact List.le_trans ab bc
  have total : ∀ a b, (bytesLe a b || bytesLe b a) = true := by
    intro a b
    rw [Bool.or_eq_true, bytesLe_iff_le, bytesLe_iff_le]
    exact List.le_total a b
  exact (List.pairwise_mergeSort transitive total names).imp bytesLe_iff_le.mp

namespace FileTree

/-- No location stands in the list twice. -/
def Distinct (tree : FileTree) : Prop := (tree.entries.map (·.1)).Nodup

section Listing

variable {tree : FileTree} {directory location : Location} {name : Bytes} {node : Node}

theorem lookup_of_ne_nil (below : location ≠ []) :
    tree.lookup location = (tree.entries.find? (·.1 == location)).map (·.2) := by
  cases location with
  | nil => exact absurd rfl below
  | cons name rest => rfl

theorem lookup_concat :
    tree.lookup (directory ++ [name]) =
      (tree.entries.find? (·.1 == directory ++ [name])).map (·.2) :=
  lookup_of_ne_nil (List.append_ne_nil_of_right_ne_nil directory (List.cons_ne_nil name []))

/-- Where no location stands twice, what is looked up is what is listed. -/
theorem Distinct.lookup_eq_some_iff (distinct : tree.Distinct) (below : location ≠ []) :
    tree.lookup location = some node ↔ (location, node) ∈ tree.entries := by
  rw [lookup_of_ne_nil below, Option.map_eq_some_iff]
  constructor
  · rintro ⟨entry, found, rfl⟩
    have hit : entry.1 = location := by simpa using List.find?_some found
    exact hit ▸ List.mem_of_find?_eq_some found
  · intro listed
    obtain ⟨entry, found⟩ : ∃ entry, tree.entries.find? (·.1 == location) = some entry :=
      Option.isSome_iff_exists.mp (List.find?_isSome.mpr ⟨_, listed, by simp⟩)
    have hit : entry.1 = location := by simpa using List.find?_some found
    have same : entry = (location, node) :=
      List.inj_on_of_nodup_map distinct (List.mem_of_find?_eq_some found) listed hit
    exact ⟨entry, found, by rw [same]⟩

/-- The names of a directory are those under which something stands in it. -/
theorem mem_children_iff :
    name ∈ tree.children directory ↔ (tree.lookup (directory ++ [name])).isSome := by
  rw [lookup_concat, Option.isSome_map, List.find?_isSome, children, List.mem_filterMap]
  apply exists_congr
  intro entry
  rw [and_congr_right_iff]
  intro _
  constructor
  · intro last
    split at last
    · next inside =>
        obtain ⟨front, split⟩ := List.getLast?_eq_some_iff.mp last
        rw [split, List.dropLast_concat, beq_iff_eq] at inside
        rw [split, inside, beq_self_eq_true]
    · cases last
  · intro hit
    rw [beq_iff_eq] at hit
    simp [hit]

theorem Distinct.nodup_children (distinct : tree.Distinct) (directory : Location) :
    (tree.children directory).Nodup := by
  rw [Distinct, List.Nodup, List.pairwise_map] at distinct
  refine List.Pairwise.filterMap _ ?_ distinct
  intro first second different name firstName other secondName same
  subst same
  split at firstName
  · next inside =>
      split at secondName
      · next alsoInside =>
          obtain ⟨front, split⟩ := List.getLast?_eq_some_iff.mp firstName
          obtain ⟨otherFront, otherSplit⟩ := List.getLast?_eq_some_iff.mp secondName
          rw [split, List.dropLast_concat, beq_iff_eq] at inside
          rw [otherSplit, List.dropLast_concat, beq_iff_eq] at alsoInside
          exact different (by rw [split, otherSplit, inside, alsoInside])
      · cases secondName
  · cases firstName

theorem mem_sortedChildren_iff :
    name ∈ tree.sortedChildren directory ↔ (tree.lookup (directory ++ [name])).isSome := by
  rw [sortedChildren, List.mem_mergeSort, mem_children_iff]

theorem Distinct.sortedChildren_ascending (distinct : tree.Distinct) (directory : Location) :
    (tree.sortedChildren directory).Pairwise (· < ·) := by
  have nodup : (tree.sortedChildren directory).Nodup :=
    (List.mergeSort_perm _ _).nodup_iff.mpr (distinct.nodup_children directory)
  refine (pairwise_mergeSort_bytesLe _).imp₂ ?_ nodup
  intro first second le ne
  apply List.not_le.mp
  intro ge
  exact ne (List.le_antisymm le ge)

theorem Distinct.of_perm {other : FileTree} (distinct : tree.Distinct)
    (perm : other.entries.Perm tree.entries) : other.Distinct := by
  rw [Distinct, (perm.map _).nodup_iff]
  exact distinct

/-- The order in which a tree lists its entries does not matter. -/
theorem Distinct.lookup_of_perm {other : FileTree} (distinct : tree.Distinct)
    (perm : other.entries.Perm tree.entries) (location : Location) :
    other.lookup location = tree.lookup location := by
  by_cases top : location = []
  · subst top
    rfl
  · apply Option.ext
    intro node
    rw [(distinct.of_perm perm).lookup_eq_some_iff top, distinct.lookup_eq_some_iff top,
      perm.mem_iff]

end Listing

section Putting

variable {tree after : FileTree} {here : Location} {path : Bytes}

theorem map_putEntry (location : Location) (node : Node) (entries : List (Location × Node)) :
    (putEntry location node entries).map (·.1) =
      if location ∈ entries.map (·.1) then entries.map (·.1)
      else entries.map (·.1) ++ [location] := by
  induction entries with
  | nil => rfl
  | cons entry rest inductionHypothesis =>
      rw [putEntry]
      by_cases hit : entry.1 = location
      · simp [hit]
      · simp only [beq_iff_eq, hit, if_false, List.map_cons, inductionHypothesis, List.mem_cons,
          Ne.symm hit, false_or]
        split <;> simp

/-- Putting something into a tree lists no location twice. -/
theorem Distinct.put (distinct : tree.Distinct) (location : Location) (node : Node) :
    (tree.put location node).Distinct := by
  rw [Distinct, FileTree.put, map_putEntry]
  split
  · exact distinct
  · next fresh =>
      rw [List.nodup_append]
      refine ⟨distinct, List.nodup_singleton _, ?_⟩
      intro old listed new isNew
      rw [List.mem_singleton] at isNew
      rintro rfl
      exact fresh (isNew ▸ listed)

theorem distinct_empty : empty.Distinct := List.nodup_nil

theorem Distinct.of_write {contents : Contents} (distinct : tree.Distinct)
    (written : tree.write here path contents = .ok after) : after.Distinct := by
  rw [write] at written
  split at written
  · obtain ⟨spot, -, thrown⟩ := bind_eq_ok_iff.mp written
    cases thrown
  · obtain ⟨spot, -, made⟩ := bind_eq_ok_iff.mp written
    cases spot with
    | vacant directory name =>
        cases made
        exact distinct.put _ _
    | existing location =>
        simp only at made
        split at made
        · cases made
          exact distinct.put _ _
        · cases made

theorem Distinct.of_makeDirectory (distinct : tree.Distinct)
    (made : tree.makeDirectory here path = .ok after) : after.Distinct := by
  obtain ⟨spot, -, put⟩ := bind_eq_ok_iff.mp made
  cases spot with
  | existing location => cases put
  | vacant directory name =>
      cases put
      exact distinct.put _ _

theorem Distinct.of_makeLink {target : Bytes} (distinct : tree.Distinct)
    (made : tree.makeLink here path target = .ok after) : after.Distinct := by
  obtain ⟨spot, -, put⟩ := bind_eq_ok_iff.mp made
  cases spot with
  | existing location => cases put
  | vacant directory name =>
      cases put
      exact distinct.put _ _

theorem Distinct.of_ensureDirectory (distinct : tree.Distinct)
    (made : tree.ensureDirectory here path = .ok after) : after.Distinct := by
  rw [ensureDirectory] at made
  split at made
  · next done =>
      cases made
      exact distinct.of_makeDirectory done
  · split at made
    · cases made
      exact distinct
    · cases made

/-- Also with the directories that were made before a failure. -/
theorem Distinct.of_makeDirectoriesFrom (distinct : tree.Distinct) (here : Location) (fuel : Nat)
    (path : Bytes) : (tree.makeDirectoriesFrom here fuel path).1.Distinct := by
  induction fuel generalizing path with
  | zero => exact distinct
  | succ fuel inductionHypothesis =>
      rw [makeDirectoriesFrom]
      split
      · exact distinct
      · split
        · next made => exact distinct.of_ensureDirectory made
        · next parent _ _ =>
            have above := inductionHypothesis parent
            split
            · next stopped => rwa [stopped] at above
            · next done =>
                rw [done] at above
                split
                · next made => exact above.of_ensureDirectory made
                · exact above
        · exact distinct

/-- A tree that gets an entry, with the directories on its path, still lists no location twice. -/
theorem Distinct.of_add {entry : Entry} (distinct : tree.Distinct)
    (added : tree.add entry = .ok after) : after.Distinct := by
  have directories {path : Bytes} {upTo : FileTree}
      (made : ((tree.makeDirectories [] path).2.map fun _ => (tree.makeDirectories [] path).1) =
        .ok upTo) : upTo.Distinct := by
    have kept := distinct.of_makeDirectoriesFrom [] (path.length + 1) path
    cases result : (tree.makeDirectories [] path).2 with
    | error fault =>
        rw [result] at made
        cases made
    | ok done =>
        rw [result] at made
        cases made
        exact kept
  cases entry with
  | directory path => exact directories added
  | file path data =>
      obtain ⟨upTo, made, written⟩ := bind_eq_ok_iff.mp added
      exact (directories made).of_write written
  | link path target =>
      obtain ⟨upTo, made, linked⟩ := bind_eq_ok_iff.mp added
      exact (directories made).of_makeLink linked

/-- A tree that is put together entry by entry lists no location twice. -/
theorem distinct_of_ofEntries {entries : List Entry} (built : ofEntries entries = .ok tree) :
    tree.Distinct :=
  foldlM_invariant (fun _ state => state.Distinct)
    (fun _ _ _ _ distinct added => distinct.of_add added) distinct_empty built

end Putting

/-- The second tree has one entry more than the first one, and is the same everywhere else. -/
structure Adds (tree after : FileTree) (location : Location) (node : Node) : Prop where
  absent : tree.lookup location = none
  there : after.lookup location = some node
  elsewhere : ∀ other, other ≠ location → after.lookup other = tree.lookup other

theorem find?_putEntry (location other : Location) (node : Node)
    (entries : List (Location × Node)) :
    (putEntry location node entries).find? (·.1 == other) =
      if other = location then some (location, node) else entries.find? (·.1 == other) := by
  induction entries with
  | nil =>
      by_cases same : other = location
      · simp [putEntry, same]
      · simp [putEntry, same, Ne.symm same]
  | cons entry rest inductionHypothesis =>
      rw [putEntry]
      by_cases hit : entry.1 = location
      · subst hit
        by_cases same : other = entry.1
        · simp [same]
        · simp [same, Ne.symm same]
      · rw [if_neg (by simpa using hit), List.find?_cons, inductionHypothesis]
        by_cases same : other = location
        · subst same
          rw [beq_false_of_ne hit, if_pos rfl, if_pos rfl]
        · simp [same, List.find?_cons]

/-- Putting something where nothing stands adds it. -/
theorem adds_put {tree : FileTree} {location : Location} (absent : tree.lookup location = none)
    (node : Node) : tree.Adds (tree.put location node) location node where
  absent := absent
  there := by
    have below : location ≠ [] := by
      rintro rfl
      cases absent
    rw [lookup_of_ne_nil below, FileTree.put, find?_putEntry, if_pos rfl, Option.map_some]
  elsewhere := by
    intro other ne
    by_cases top : other = []
    · subst top
      rfl
    · rw [lookup_of_ne_nil top, lookup_of_ne_nil top, FileTree.put, find?_putEntry, if_neg ne]

/-- A location is one of some entries of a directory, or below one of them. -/
def Within (directory : Location) (names : List Bytes) (location : Location) : Prop :=
  ∃ name ∈ names, directory ++ [name] <+: location

instance (directory : Location) (names : List Bytes) :
    DecidablePred (Within directory names) := fun location =>
  inferInstanceAs (Decidable (∃ name ∈ names, directory ++ [name] <+: location))

/-- A tree without some entries of a directory and all that is below them. -/
def without (tree : FileTree) (directory : Location) (names : List Bytes) : FileTree :=
  ⟨tree.entries.filter fun entry => ¬Within directory names entry.1⟩

section Without

variable {tree : FileTree} {directory : Location} {names : List Bytes}

theorem not_within_nil : ¬Within directory names [] := by
  rintro ⟨name, -, front⟩
  simp at front

theorem not_within_self : ¬Within directory names directory := by
  rintro ⟨name, -, front⟩
  have shorter := front.length_le
  rw [List.length_append, List.length_singleton] at shorter
  omega

theorem within_concat_iff {name : Bytes} :
    Within directory names (directory ++ [name]) ↔ name ∈ names := by
  simp [Within]

theorem Distinct.without (distinct : tree.Distinct) (directory : Location) (names : List Bytes) :
    (tree.without directory names).Distinct :=
  List.Nodup.sublist (List.filter_sublist.map _) distinct

theorem lookup_without (tree : FileTree) (directory : Location) (names : List Bytes)
    (location : Location) :
    (tree.without directory names).lookup location =
      if Within directory names location then none else tree.lookup location := by
  by_cases top : location = []
  · subst top
    rw [if_neg not_within_nil]
    rfl
  · rw [lookup_of_ne_nil top, lookup_of_ne_nil top, FileTree.without, List.find?_filter]
    split
    · next gone =>
        rw [Option.map_eq_none_iff, List.find?_eq_none]
        intro entry _ both
        obtain ⟨kept, hit⟩ : ¬Within directory names entry.1 ∧ entry.1 = location := by
          simpa using both
        exact kept (hit ▸ gone)
    · next kept =>
        congr 2
        funext entry
        by_cases hit : entry.1 = location
        · simp [hit, kept]
        · simp [hit]

end Without

end FileTree
end Occupancy
