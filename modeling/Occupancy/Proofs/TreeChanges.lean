/-
Module: Occupancy.Proofs.TreeChanges
Purpose: What writing files and making directories does to a tree, and to the paths through it.
Main exports: FileTree.Retains, FileTree.locate_of_retains, FileTree.Changes, FileTree.Changes.trans,
  FileTree.exists_of_write, FileTree.write_again, FileTree.changes_makeDirectoriesFrom,
  FileTree.makeDirectoriesFrom_again
-/
import Occupancy.Proofs.PathFootprint
import Occupancy.Proofs.TreeEntries

namespace Occupancy

/-!
A run of the program only writes files and makes directories. Nothing that stands in the tree goes
away, a directory stays a directory and a link keeps its target; the contents of a file are all that
is ever replaced. A walk does not look at contents, so a path that led somewhere leads there still
(`locate_of_retains`). A path that came to a free name leads to what is then put there, which is why
a file that has been written is found again under the path that it was written to.

Both are one fact about walks (`walkParts_append`): in the later tree a walk repeats the turns of
the earlier one as far as this went, and then goes on from the spot where it ended.
-/

/-- What a walk sees of something: all but the contents of a file. -/
def Node.form : Node → Node
  | .file _ => .file (.bytes [])
  | .directory => .directory
  | .link path => .link path

theorem Node.form_eq_directory_iff {node : Node} : node.form = .directory ↔ node = .directory := by
  cases node <;> simp [form]

theorem Node.form_eq_link_iff {node : Node} {target : Bytes} :
    node.form = .link target ↔ node = .link target := by
  cases node <;> simp [form]

theorem Node.form_eq_file_iff {node : Node} {contents : Contents} :
    node.form = (Node.file contents).form ↔ ∃ other, node = .file other := by
  cases node <;> simp [form]

/-- Where a walk stands when it has come to a spot. -/
def Spot.standing : Spot → Location
  | .existing location => location
  | .vacant directory _ => directory

/-- The parts that a walk could not take any more. -/
def Spot.remaining : Spot → List Part
  | .existing _ => []
  | .vacant _ name => [.name name]

namespace FileTree

section Vacancy

variable {tree : FileTree} {here directory : Location} {name : Bytes} {keepLast : Bool}
  {follow : Location → Bytes → List Part → Except SystemError Spot} {spot : Spot}

theorem turn_eq_missing_iff :
    tree.turn here (.name name) = .missing name ↔
      tree.lookup here = some .directory ∧ name.length ≤ nameLimit ∧
        tree.lookup (here ++ [name]) = none := by
  rw [turn.eq_def]
  cases tree.lookup here with
  | none => simp
  | some node =>
      cases node with
      | file contents => simp
      | link target => simp
      | directory =>
          by_cases long : nameLimit < name.length
          · simp [long, Nat.not_le.mpr long]
          · cases next : tree.lookup (here ++ [name]) with
            | none => simp [long, Nat.not_lt.mp long, next]
            | some node => cases node <;> simp [long, next]

/-- The first turn of a walk that comes to a spot, where the spot is no link that is wanted
itself. -/
theorem walkParts_cons_eq_ok {part : Part} {rest : List Part}
    (free : keepLast = true → ∃ directory name, spot = .vacant directory name)
    (walked : tree.walkParts keepLast follow here (part :: rest) = .ok spot) :
    (∃ name, part = .name name ∧ rest = [] ∧ spot = .vacant here name ∧
        tree.turn here part = .missing name) ∨
      (∃ next, tree.turn here part = .onward next ∧
        tree.walkParts keepLast follow next rest = .ok spot) ∨
      ∃ target, tree.turn here part = .linked target ∧ follow here target rest = .ok spot := by
  rw [walkParts.eq_def] at walked
  rw [turn.eq_def]
  cases standing : tree.lookup here with
  | none =>
      rw [standing] at walked
      cases walked
  | some node =>
      cases node with
      | file contents =>
          rw [standing] at walked
          cases walked
      | link target =>
          rw [standing] at walked
          cases walked
      | directory =>
          cases part with
          | here =>
              rw [standing] at walked
              exact Or.inr (Or.inl ⟨here, rfl, walked⟩)
          | up =>
              rw [standing] at walked
              exact Or.inr (Or.inl ⟨here.dropLast, rfl, walked⟩)
          | name name =>
              simp only [standing] at walked
              split at walked
              · cases walked
              · next fits =>
                  simp only [if_neg fits]
                  cases next : tree.lookup (here ++ [name]) with
                  | none =>
                      simp only [next] at walked
                      split at walked
                      · next last =>
                          cases walked
                          exact Or.inl ⟨name, rfl, List.isEmpty_iff.mp last, rfl, rfl⟩
                      · cases walked
                  | some node =>
                      cases node with
                      | directory =>
                          simp only [next] at walked
                          exact Or.inr (Or.inl ⟨_, rfl, walked⟩)
                      | file contents =>
                          simp only [next] at walked
                          exact Or.inr (Or.inl ⟨_, rfl, walked⟩)
                      | link target =>
                          simp only [next] at walked
                          split at walked
                          · next wanted =>
                              cases walked
                              obtain ⟨directory, other, same⟩ :=
                                free (Bool.and_eq_true_iff.mp wanted).2
                              cases same
                          · exact Or.inr (Or.inr ⟨target, rfl, walked⟩)

/-- A free name that a walk comes to is not there. -/
theorem missing_of_walkParts
    (linked : ∀ here target rest, follow here target rest = .ok (.vacant directory name) →
      tree.turn directory (.name name) = .missing name)
    (here : Location) (parts : List Part)
    (walked : tree.walkParts keepLast follow here parts = .ok (.vacant directory name)) :
    tree.turn directory (.name name) = .missing name := by
  induction parts generalizing here with
  | nil => cases walked
  | cons part rest inductionHypothesis =>
      rcases walkParts_cons_eq_ok (fun _ => ⟨directory, name, rfl⟩) walked with
        ⟨last, rfl, -, same, missing⟩ | ⟨next, -, further⟩ | ⟨target, -, further⟩
      · cases same
        exact missing
      · exact inductionHypothesis next further
      · exact linked here target rest further

theorem missing_of_walkLinks (links : Nat) (here : Location) (parts : List Part)
    (walked : tree.walkLinks keepLast links here parts = .ok (.vacant directory name)) :
    tree.turn directory (.name name) = .missing name := by
  induction links generalizing here parts with
  | zero => exact missing_of_walkParts (fun _ _ _ failed => by cases failed) here parts walked
  | succ links inductionHypothesis =>
      exact missing_of_walkParts (fun here target rest => inductionHypothesis _ _) here parts walked

end Vacancy

/-- What stands in the first tree stands in the second one too, up to the contents of files. -/
def Retains (tree after : FileTree) : Prop :=
  ∀ location node, tree.lookup location = some node →
    ∃ other, after.lookup location = some other ∧ other.form = node.form

section Retaining

variable {tree after : FileTree} {here folder : Location} {name path : Bytes}
  {keepLast : Bool} {spot : Spot} {tail : List Part} {result : Except SystemError Spot}

theorem Retains.refl (tree : FileTree) : tree.Retains tree :=
  fun _ node there => ⟨node, there, rfl⟩

theorem Retains.trans {between : FileTree} (first : tree.Retains between)
    (second : between.Retains after) : tree.Retains after := by
  intro location node there
  rcases first location node there with ⟨other, still, same⟩
  rcases second location other still with ⟨last, stillThere, alsoSame⟩
  exact ⟨last, stillThere, alsoSame.trans same⟩

theorem Retains.directory {location : Location} (retains : tree.Retains after)
    (there : tree.lookup location = some .directory) :
    after.lookup location = some .directory := by
  obtain ⟨other, still, same⟩ := retains location .directory there
  rw [still, Node.form_eq_directory_iff.mp same]

/-- A turn that has led on leads on the same way. -/
theorem Retains.turn_eq {part : Part} (retains : tree.Retains after)
    (allowed : ∀ fault, tree.turn here part ≠ .refused fault)
    (found : ∀ name, tree.turn here part ≠ .missing name) :
    after.turn here part = tree.turn here part := by
  have seen := isSome_of_turn allowed found
  have standing : tree.lookup here = some .directory := by
    rw [turn.eq_def] at allowed
    cases standing : tree.lookup here with
    | none => simp [standing] at allowed
    | some node => cases node <;> simp [standing] at allowed ⊢
  cases part with
  | here => rw [turn, turn, standing, retains.directory standing]
  | up => rw [turn, turn, standing, retains.directory standing]
  | name name =>
      obtain ⟨node, there⟩ :=
        Option.isSome_iff_exists.mp (seen (here ++ [name]) (by simp [sights]))
      obtain ⟨other, still, same⟩ := retains _ node there
      rw [turn, turn, standing, retains.directory standing]
      simp only [there, still]
      cases node with
      | directory => rw [Node.form_eq_directory_iff.mp same]
      | link target => rw [Node.form_eq_link_iff.mp same]
      | file contents =>
          obtain ⟨otherContents, rfl⟩ := Node.form_eq_file_iff.mp same
          rfl

/-- A walk takes the turns that it took before, and then goes on from where it came to. -/
theorem walkParts_append {follow otherFollow : Location → Bytes → List Part → Except SystemError Spot}
    (retains : tree.Retains after)
    (free : keepLast = true → ∃ folder name, spot = .vacant folder name)
    (goesOn : ∀ follow,
      after.walkParts false follow spot.standing (spot.remaining ++ tail) = result)
    (linked : ∀ here target rest, follow here target rest = .ok spot →
      otherFollow here target (rest ++ tail) = result)
    (here : Location) (parts : List Part)
    (walked : tree.walkParts keepLast follow here parts = .ok spot) :
    after.walkParts false otherFollow here (parts ++ tail) = result := by
  induction parts generalizing here with
  | nil =>
      cases walked
      exact goesOn otherFollow
  | cons part rest inductionHypothesis =>
      rcases walkParts_cons_eq_ok free walked with
        ⟨name, rfl, rfl, rfl, -⟩ | ⟨next, turned, further⟩ | ⟨target, turned, further⟩
      · exact goesOn otherFollow
      · have again : after.turn here part = .onward next := by
          rw [retains.turn_eq (by simp [turned]) (by simp [turned]), turned]
        rw [List.cons_append, walkParts_cons, again]
        exact inductionHypothesis next further
      · have again : after.turn here part = .linked target := by
          rw [retains.turn_eq (by simp [turned]) (by simp [turned]), turned]
        rw [List.cons_append, walkParts_cons, again]
        exact linked here target rest further

theorem walkLinks_append (retains : tree.Retains after)
    (free : keepLast = true → ∃ folder name, spot = .vacant folder name)
    (goesOn : ∀ follow,
      after.walkParts false follow spot.standing (spot.remaining ++ tail) = result)
    (links : Nat) (here : Location) (parts : List Part)
    (walked : tree.walkLinks keepLast links here parts = .ok spot) :
    after.walkLinks false links here (parts ++ tail) = result := by
  induction links generalizing here parts with
  | zero =>
      exact walkParts_append retains free goesOn (fun _ _ _ failed => by cases failed) here parts
        walked
  | succ links inductionHypothesis =>
      refine walkParts_append retains free goesOn ?_ here parts walked
      intro here target rest further
      rw [← List.append_assoc]
      exact inductionHypothesis _ _ further

/-- A path that leads somewhere leads there still. -/
theorem locate_of_retains {location : Location} (retains : tree.Retains after)
    (located : tree.locate here path = .ok location) : after.locate here path = .ok location := by
  rw [locate_eq_ok_iff, walk_eq] at located ⊢
  cases checked : checkPath path with
  | error fault =>
      rw [checked] at located
      cases located
  | ok fine =>
      rw [checked] at located
      have again : after.walkLinks false linkLimit (origin here path)
          (Part.ofPathStrict path ++ []) = .ok (.existing location) :=
        walkLinks_append retains (by simp) (fun _ => rfl) _ _ _ located
      rwa [List.append_nil] at again

theorem find_of_retains {node : Node} (retains : tree.Retains after)
    (found : tree.find here path = .ok node) :
    ∃ other, after.find here path = .ok other ∧ other.form = node.form := by
  obtain ⟨location, located, there⟩ := find_eq_ok_iff.mp found
  obtain ⟨other, still, same⟩ := retains location node there
  exact ⟨other, find_eq_ok_iff.mpr ⟨location, locate_of_retains retains located, still⟩, same⟩

theorem find_directory_of_retains (retains : tree.Retains after)
    (found : tree.find here path = .ok .directory) : after.find here path = .ok .directory := by
  obtain ⟨other, still, same⟩ := find_of_retains retains found
  rw [still, Node.form_eq_directory_iff.mp same]

theorem missing_of_walk (walked : tree.walk here path = .ok (.vacant folder name)) :
    tree.turn folder (.name name) = .missing name := by
  rw [walk_eq] at walked
  cases checked : checkPath path with
  | error fault =>
      rw [checked] at walked
      cases walked
  | ok fine =>
      rw [checked] at walked
      exact missing_of_walkLinks _ _ _ walked

/-- What is put under a free name is where a walk goes on. -/
theorem Retains.turn_of_missing {node : Node} (retains : tree.Retains after)
    (missing : tree.turn folder (.name name) = .missing name)
    (there : after.lookup (folder ++ [name]) = some node) (plain : ∀ target, node ≠ .link target) :
    after.turn folder (.name name) = .onward (folder ++ [name]) := by
  obtain ⟨standing, fits, -⟩ := turn_eq_missing_iff.mp missing
  rw [turn, retains.directory standing]
  cases node with
  | directory => simp only [if_neg (Nat.not_lt.mpr fits), there]
  | file contents => simp only [if_neg (Nat.not_lt.mpr fits), there]
  | link target => exact absurd rfl (plain target)

/-- A path that led to a free name leads to the file that is put there. -/
theorem locate_of_vacant {contents : Contents} (retains : tree.Retains after)
    (walked : tree.walk here path = .ok (.vacant folder name))
    (there : after.lookup (folder ++ [name]) = some (.file contents)) :
    after.locate here path = .ok (folder ++ [name]) := by
  have onward := retains.turn_of_missing (missing_of_walk walked) there (by simp)
  have goesOn (follow : Location → Bytes → List Part → Except SystemError Spot) :
      after.walkParts false follow folder [.name name] = .ok (.existing (folder ++ [name])) := by
    rw [walkParts_cons, onward]
    rfl
  rw [walk_eq] at walked
  rw [locate_eq_ok_iff, walk_eq]
  cases checked : checkPath path with
  | error fault =>
      rw [checked] at walked
      cases walked
  | ok fine =>
      rw [checked] at walked
      have again : after.walkLinks false linkLimit (origin here path)
          (Part.ofPathStrict path ++ []) = .ok (.existing (folder ++ [name])) := by
        apply walkLinks_append retains (by simp) _ _ _ _ walked
        exact goesOn
      rwa [List.append_nil] at again

theorem walkToEntry_eq_ok_iff {spot : Spot} :
    tree.walkToEntry here path = .ok spot ↔
      checkPath path = .ok () ∧
        tree.walkLinks true linkLimit (origin here path) (Part.ofPath path) = .ok spot := by
  rw [walkToEntry]
  cases checkPath path <;> simp [bind, Except.bind]

theorem missing_of_walkToEntry (walked : tree.walkToEntry here path = .ok (.vacant folder name)) :
    tree.turn folder (.name name) = .missing name :=
  missing_of_walkLinks _ _ _ (walkToEntry_eq_ok_iff.mp walked).2

/-- The same for a directory, whose path may have a slash at its end. -/
theorem locate_of_vacant_entry (retains : tree.Retains after)
    (walked : tree.walkToEntry here path = .ok (.vacant folder name))
    (there : after.lookup (folder ++ [name]) = some .directory) :
    after.locate here path = .ok (folder ++ [name]) := by
  have onward := retains.turn_of_missing (missing_of_walkToEntry walked) there (by simp)
  have goesOn (follow : Location → Bytes → List Part → Except SystemError Spot) :
      after.walkParts false follow folder
          ([.name name] ++ if path.getLast? == some Path.slash then [.here] else []) =
        .ok (.existing (folder ++ [name])) := by
    rw [List.singleton_append, walkParts_cons, onward]
    cases path.getLast? == some Path.slash with
    | false => rfl
    | true => simp [walkParts_cons, turn, there, walkParts]
  obtain ⟨checked, walked⟩ := walkToEntry_eq_ok_iff.mp walked
  rw [locate_eq_ok_iff, walk_eq, checked]
  exact walkLinks_append retains (fun _ => ⟨folder, name, rfl⟩) goesOn _ _ _ walked

/-- A path leads to nothing as long as its last name is free. -/
theorem find_ne_ok_of_vacant_entry
    (walked : tree.walkToEntry here path = .ok (.vacant folder name)) (node : Node) :
    tree.find here path ≠ .ok node := by
  intro found
  obtain ⟨location, located, -⟩ := find_eq_ok_iff.mp found
  have missing := missing_of_walkToEntry walked
  obtain ⟨checked, walked⟩ := walkToEntry_eq_ok_iff.mp walked
  let tail : List Part := if path.getLast? == some Path.slash then [.here] else []
  have goesOn (follow : Location → Bytes → List Part → Except SystemError Spot) :
      tree.walkParts false follow folder ([.name name] ++ tail) =
        if tail.isEmpty then .ok (.vacant folder name) else .error .notFound := by
    rw [List.singleton_append, walkParts_cons, missing]
  have ending := walkLinks_append (Retains.refl tree) (fun _ => ⟨folder, name, rfl⟩) goesOn _ _ _
    walked
  rw [locate_eq_ok_iff, walk_eq, checked] at located
  have other : Except.ok (Spot.existing location) =
      if tail.isEmpty then .ok (.vacant folder name) else .error SystemError.notFound :=
    located.symm.trans ending
  split at other <;> cases other

end Retaining

/-- What lies between two trees: files have been written at some locations, each in place of a file
or of nothing, and for the rest there are at the most directories that were not there before. -/
structure Changes (tree after : FileTree) (files : List Location) : Prop where
  written : ∀ location ∈ files, ∃ contents, after.lookup location = some (.file contents)
  replaced : ∀ location ∈ files, ∀ node, tree.lookup location = some node →
    ∃ contents, node = .file contents
  kept : ∀ location ∉ files, ∀ node, tree.lookup location = some node →
    after.lookup location = some node
  made : ∀ location ∉ files, tree.lookup location = none →
    after.lookup location = none ∨ after.lookup location = some .directory

namespace Changes

variable {tree between after : FileTree} {files others : List Location}

theorem refl (tree : FileTree) : tree.Changes tree [] where
  written := by simp
  replaced := by simp
  kept := fun _ _ _ there => there
  made := fun _ _ absent => Or.inl absent

theorem retains (changes : tree.Changes after files) : tree.Retains after := by
  intro location node there
  by_cases member : location ∈ files
  · obtain ⟨contents, rfl⟩ := changes.replaced location member node there
    obtain ⟨others, still⟩ := changes.written location member
    exact ⟨.file others, still, rfl⟩
  · exact ⟨node, changes.kept location member node there, rfl⟩

theorem trans (first : tree.Changes between files) (second : between.Changes after others) :
    tree.Changes after (files ++ others) where
  written := by
    intro location member
    by_cases later : location ∈ others
    · exact second.written location later
    · obtain ⟨contents, there⟩ :=
        first.written location ((List.mem_append.mp member).resolve_right later)
      exact ⟨contents, second.kept location later _ there⟩
  replaced := by
    intro location member node there
    by_cases earlier : location ∈ files
    · exact first.replaced location earlier node there
    · exact second.replaced location ((List.mem_append.mp member).resolve_left earlier) node
        (first.kept location earlier node there)
  kept := by
    intro location outside node there
    rw [List.mem_append, not_or] at outside
    exact second.kept location outside.2 node (first.kept location outside.1 node there)
  made := by
    intro location outside absent
    rw [List.mem_append, not_or] at outside
    rcases first.made location outside.1 absent with stillAbsent | directory
    · exact second.made location outside.2 stillAbsent
    · exact Or.inr (second.kept location outside.2 _ directory)

/-- A link that is there afterwards was there before. -/
theorem link_of_link {location : Location} {target : Bytes} (changes : tree.Changes after files)
    (there : after.lookup location = some (.link target)) :
    tree.lookup location = some (.link target) := by
  have outside : location ∉ files := by
    intro member
    obtain ⟨contents, file⟩ := changes.written location member
    cases there.symm.trans file
  cases before : tree.lookup location with
  | none =>
      rcases changes.made location outside before with absent | directory
      · cases there.symm.trans absent
      · cases there.symm.trans directory
  | some node => exact (changes.kept location outside node before).symm.trans there

end Changes

section Putting

variable {tree after : FileTree} {here location : Location} {path : Bytes} {node : Node}
  {contents : Contents}

theorem lookup_put (tree : FileTree) (node : Node) (below : location ≠ []) (other : Location) :
    (tree.put location node).lookup other =
      if other = location then some node else tree.lookup other := by
  by_cases top : other = []
  · subst top
    rw [if_neg (Ne.symm below)]
    rfl
  · rw [lookup_of_ne_nil top, lookup_of_ne_nil top, FileTree.put, find?_putEntry]
    split <;> rfl

theorem changes_put_file (below : location ≠ [])
    (replaced : ∀ node, tree.lookup location = some node → ∃ contents, node = .file contents) :
    tree.Changes (tree.put location (.file contents)) [location] where
  written := by simp [lookup_put tree _ below]
  replaced := by simpa using replaced
  kept := by
    intro other outside node there
    rw [lookup_put _ _ below, if_neg (by simpa using outside), there]
  made := by
    intro other outside absent
    rw [lookup_put _ _ below, if_neg (by simpa using outside)]
    exact Or.inl absent

theorem changes_put_directory (absent : tree.lookup location = none) :
    tree.Changes (tree.put location .directory) [] where
  written := by simp
  replaced := by simp
  kept := by
    intro other _ node there
    have ahead : other ≠ location := by
      rintro rfl
      cases there.symm.trans absent
    rw [(adds_put absent _).elsewhere other ahead, there]
  made := by
    intro other _ missing
    by_cases same : other = location
    · subst same
      exact Or.inr (adds_put missing _).there
    · rw [(adds_put absent _).elsewhere other same]
      exact Or.inl missing

/-- What writing to a path does: the contents are put at the location to which the path then leads,
in place of a file or of nothing. -/
theorem exists_of_write (written : tree.write here path contents = .ok after) :
    ∃ location, location ≠ [] ∧ after = tree.put location (.file contents) ∧
      tree.Changes after [location] ∧ after.locate here path = .ok location ∧
      path.getLast? ≠ some Path.slash := by
  rw [write] at written
  split at written
  · obtain ⟨spot, -, thrown⟩ := bind_eq_ok_iff.mp written
    cases thrown
  · next open_ =>
      have noSlash : path.getLast? ≠ some Path.slash := by simpa using open_
      obtain ⟨spot, walked, made⟩ := bind_eq_ok_iff.mp written
      cases spot with
      | vacant directory name =>
          cases made
          have below : directory ++ [name] ≠ [] := by simp
          have absent : tree.lookup (directory ++ [name]) = none :=
            (turn_eq_missing_iff.mp (missing_of_walk walked)).2.2
          have changes : tree.Changes (tree.put (directory ++ [name]) (.file contents))
              [directory ++ [name]] := changes_put_file below (by simp [absent])
          exact ⟨_, below, rfl, changes,
            locate_of_vacant changes.retains walked (by rw [lookup_put _ _ below, if_pos rfl]), noSlash⟩
      | existing location =>
          simp only at made
          split at made
          · next old there =>
              cases made
              have below : location ≠ [] := by
                rintro rfl
                cases there
              have changes : tree.Changes (tree.put location (.file contents)) [location] :=
                changes_put_file below (by simp [there])
              exact ⟨location, below, rfl, changes,
                locate_of_retains changes.retains (locate_eq_ok_iff.mpr walked), noSlash⟩
          · cases made

/-- What has been written to a path can be written there again, and only this file changes. -/
theorem write_again {again : FileTree} (written : tree.write here path contents = .ok after)
    (retains : after.Retains again) :
    ∃ location, after.locate here path = .ok location ∧
      after.lookup location = some (.file contents) ∧
      again.Changes (again.put location (.file contents)) [location] ∧
      ∀ other, again.write here path other = .ok (again.put location (.file other)) ∧
        ∀ place, (again.put location (.file other)).lookup place =
          if place = location then some (.file other) else again.lookup place := by
  rcases exists_of_write written with ⟨location, below, rfl, -, located, noSlash⟩
  have there : (tree.put location (.file contents)).lookup location = some (.file contents) := by
    rw [lookup_put _ _ below, if_pos rfl]
  rcases retains location _ there with ⟨node, still, same⟩
  rcases Node.form_eq_file_iff.mp same with ⟨old, rfl⟩
  refine ⟨location, located, there, changes_put_file below (by simp [still]),
    fun other => ⟨?_, ?_⟩⟩
  · have leads := locate_eq_ok_iff.mp (locate_of_retains retains located)
    simp [write, noSlash, leads, still, bind, Except.bind, pure, Except.pure]
  · exact lookup_put again _ below

end Putting

section Directories

variable {tree after : FileTree} {here : Location} {path : Bytes}

theorem changes_of_makeDirectory (made : tree.makeDirectory here path = .ok after) :
    tree.Changes after [] ∧ after.find here path = .ok .directory := by
  obtain ⟨spot, walked, put⟩ := bind_eq_ok_iff.mp made
  cases spot with
  | existing location => cases put
  | vacant directory name =>
      cases put
      have absent : tree.lookup (directory ++ [name]) = none :=
        (turn_eq_missing_iff.mp (missing_of_walkToEntry walked)).2.2
      have changes := changes_put_directory absent
      have there := (adds_put absent .directory).there
      exact ⟨changes, find_eq_ok_iff.mpr
        ⟨_, locate_of_vacant_entry changes.retains walked there, there⟩⟩

theorem changes_of_ensureDirectory (made : tree.ensureDirectory here path = .ok after) :
    tree.Changes after [] ∧ after.find here path = .ok .directory := by
  rw [ensureDirectory] at made
  split at made
  · next new =>
      cases made
      exact changes_of_makeDirectory new
  · split at made
    · next old =>
        cases made
        exact ⟨Changes.refl _, isDirectory_iff.mp old⟩
    · cases made

/-- A directory that is there is not made again. -/
theorem ensureDirectory_of_directory (found : tree.find here path = .ok .directory) :
    tree.ensureDirectory here path = .ok tree := by
  rw [ensureDirectory]
  cases made : tree.makeDirectory here path with
  | error fault => simp only [isDirectory_iff.mpr found, if_true]
  | ok after =>
      obtain ⟨spot, walked, put⟩ := bind_eq_ok_iff.mp made
      cases spot with
      | existing location => cases put
      | vacant directory name => exact absurd found (find_ne_ok_of_vacant_entry walked _)

/-- Making directories changes nothing else, also if it fails halfway. -/
theorem changes_makeDirectoriesFrom (tree : FileTree) (here : Location) (fuel : Nat)
    (path : Bytes) : tree.Changes (tree.makeDirectoriesFrom here fuel path).1 [] := by
  induction fuel generalizing path with
  | zero => exact Changes.refl tree
  | succ fuel inductionHypothesis =>
      rw [makeDirectoriesFrom]
      split
      · exact Changes.refl tree
      · split
        · next made => exact (changes_of_ensureDirectory made).1
        · next parent _ _ =>
            have above := inductionHypothesis parent
            split
            · next stopped => rwa [stopped] at above
            · next done =>
                rw [done] at above
                split
                · next made => exact above.trans (changes_of_ensureDirectory made).1
                · exact above
        · exact Changes.refl tree

/-- Where directories have been made, making them again changes nothing. -/
theorem makeDirectoriesFrom_again {again : FileTree} (fuel : Nat)
    (made : tree.makeDirectoriesFrom here fuel path = (after, .ok ())) (retains : after.Retains again) :
    again.makeDirectoriesFrom here fuel path = (again, .ok ()) := by
  cases fuel with
  | zero => rfl
  | succ fuel =>
      rw [makeDirectoriesFrom] at made ⊢
      by_cases empty : path.isEmpty = true
      · rw [if_pos empty]
      · rw [if_neg empty] at made ⊢
        have directory : after.find here path = .ok .directory := by
          split at made
          · next upTo ensured =>
              cases made
              exact (changes_of_ensureDirectory ensured).2
          · split at made
            · cases made
            · split at made
              · next ensured =>
                  cases made
                  exact (changes_of_ensureDirectory ensured).2
              · cases made
          · cases made
        rw [ensureDirectory_of_directory (find_directory_of_retains retains directory)]

end Directories

end FileTree
end Occupancy
