/-
Module: Occupancy.Proofs.PlanEntries
Purpose: Which entries of the input directory a plan takes, and when there is no plan.
Main exports: FileTree.InputDirectory, FileTree.HasEntry, FileTree.LinkFault, Plan.ofNames,
  Plan.ofTree_eq_ok_iff, Plan.ofTree_congr, ofTree_tells_entries
-/
import Mathlib
import Occupancy.Proofs.FolderName
import Occupancy.Proofs.PathFootprint
import Occupancy.Proofs.TreeEntries

namespace Occupancy

/-!
A plan goes through the entries of the input directory in the order of their names. Each entry is a
folder, or is passed over, or is a link that ends the plan; which of them does not depend on the
entries before it. So the loop is one that cannot fail, unless there is a faulty link, and then it
only sorts the folders into two lists.

Every outcome is told here by what can be looked up in the tree, and not by the order in which it
lists its entries: the folders of a plan are those of the ascending list of all the names of
directories, of which there is only one, and the error of a listing is that of the first faulty link
in the order of names.
-/

namespace FileTree

variable (tree : FileTree) (here : Location) (input : Bytes)

/-- The input path leads to a directory, and this is its location. -/
structure InputDirectory (root : Location) : Prop where
  located : tree.locate here input = .ok root
  directory : tree.lookup root = some .directory

/-- The input directory has an entry of a name, and this is what it is, or what its link leads
to. -/
inductive HasEntry (name : Bytes) : Node → Prop where
  | itself {root : Location} {node : Node} (located : tree.locate here input = .ok root)
      (there : tree.lookup (root ++ [name]) = some node) (plain : ∀ target, node ≠ .link target) :
      HasEntry name node
  | followed {root : Location} {target : Bytes} {node : Node}
      (located : tree.locate here input = .ok root)
      (there : tree.lookup (root ++ [name]) = some (.link target))
      (found : tree.find here (Path.join input name) = .ok node) : HasEntry name node

/-- The input directory has a link of a name that leads nowhere, or back to the input directory, and
this is the error that ends the plan. -/
inductive LinkFault (root : Location) (name : Bytes) : WalkError → Prop where
  | unresolved {target : Bytes} {fault : SystemError}
      (there : tree.lookup (root ++ [name]) = some (.link target))
      (failed : tree.locate here (Path.join input name) = .error fault) :
      LinkFault root name (.entry (Path.join input name) fault)
  | loop {target : Bytes} (there : tree.lookup (root ++ [name]) = some (.link target))
      (back : tree.locate here (Path.join input name) = .ok root) :
      LinkFault root name (.loop (Path.join input name) input)

/-- The error of an entry, if it ends the plan. -/
def entryFault? (root : Location) (name : Bytes) : Option WalkError :=
  match tree.entryIsDirectory here input root name with
  | .error fault => some fault
  | .ok _ => none

/-- Whether an entry is a folder for the plan. -/
def entryIsFolder (root : Location) (name : Bytes) : Bool :=
  match tree.entryIsDirectory here input root name with
  | .error _ => false
  | .ok isDirectory => isDirectory

variable {tree here input} {root : Location} {name : Bytes}

theorem HasEntry.isSome_lookup {node : Node} (entry : tree.HasEntry here input name node)
    (located : tree.locate here input = .ok root) : (tree.lookup (root ++ [name])).isSome := by
  cases entry with
  | itself alsoLocated there _ =>
      cases located.symm.trans alsoLocated
      rw [there]
      rfl
  | followed alsoLocated there _ =>
      cases located.symm.trans alsoLocated
      rw [there]
      rfl

theorem HasEntry.exists_located {node : Node} (entry : tree.HasEntry here input name node) :
    ∃ root, tree.locate here input = .ok root := by
  cases entry with
  | itself located _ _ => exact ⟨_, located⟩
  | followed located _ _ => exact ⟨_, located⟩

/-- An entry is the same in another tree that has the same of its name, and the same where its link
leads. -/
theorem HasEntry.transfer {other : FileTree} {node : Node}
    (entry : tree.HasEntry here input name node) (located : tree.locate here input = .ok root)
    (otherLocated : other.locate here input = .ok root)
    (same : other.lookup (root ++ [name]) = tree.lookup (root ++ [name]))
    (followed : ∀ target, tree.lookup (root ++ [name]) = some (.link target) →
      other.find here (Path.join input name) = tree.find here (Path.join input name)) :
    other.HasEntry here input name node := by
  cases entry with
  | itself alsoLocated there plain =>
      cases located.symm.trans alsoLocated
      exact .itself otherLocated (same.trans there) plain
  | followed alsoLocated there found =>
      cases located.symm.trans alsoLocated
      exact .followed otherLocated (same.trans there) ((followed _ there).trans found)

theorem LinkFault.transfer {other : FileTree} {error : WalkError}
    (fault : tree.LinkFault here input root name error)
    (same : other.lookup (root ++ [name]) = tree.lookup (root ++ [name]))
    (followed : ∀ target, tree.lookup (root ++ [name]) = some (.link target) →
      other.locate here (Path.join input name) = tree.locate here (Path.join input name)) :
    other.LinkFault here input root name error := by
  cases fault with
  | unresolved there failed =>
      exact .unresolved (same.trans there) ((followed _ there).trans failed)
  | loop there back => exact .loop (same.trans there) ((followed _ there).trans back)

theorem LinkFault.isSome_lookup {error : WalkError}
    (fault : tree.LinkFault here input root name error) :
    (tree.lookup (root ++ [name])).isSome := by
  cases fault with
  | unresolved there _ => simp [there]
  | loop there _ => simp [there]

/-- An entry that is a file, or a link to one, is no faulty link. -/
theorem HasEntry.not_linkFault {contents : Contents} {error : WalkError}
    (entry : tree.HasEntry here input name (.file contents))
    (inside : tree.InputDirectory here input root) :
    ¬tree.LinkFault here input root name error := by
  intro faulty
  cases entry with
  | itself located there plain =>
      cases inside.located.symm.trans located
      cases faulty with
      | unresolved link _ => cases there.symm.trans link
      | loop link _ => cases there.symm.trans link
  | followed located there found =>
      cases inside.located.symm.trans located
      obtain ⟨location, leads, isFile⟩ := find_eq_ok_iff.mp found
      cases faulty with
      | unresolved _ failed => cases leads.symm.trans failed
      | loop _ back =>
          cases leads.symm.trans back
          cases isFile.symm.trans inside.directory

/-- An entry is one thing. -/
theorem HasEntry.unique {node other : Node} (entry : tree.HasEntry here input name node)
    (alsoEntry : tree.HasEntry here input name other) : node = other := by
  cases entry with
  | itself located there plain =>
      cases alsoEntry with
      | itself alsoLocated alsoThere _ =>
          cases located.symm.trans alsoLocated
          cases there.symm.trans alsoThere
          rfl
      | followed alsoLocated link _ =>
          cases located.symm.trans alsoLocated
          cases there.symm.trans link
          exact absurd rfl (plain _)
  | followed located link found =>
      cases alsoEntry with
      | itself alsoLocated there plain =>
          cases located.symm.trans alsoLocated
          cases there.symm.trans link
          exact absurd rfl (plain _)
      | followed _ _ alsoFound =>
          cases found.symm.trans alsoFound
          rfl

/-- What an entry of the input directory does, by what stands there and where its link leads. -/
theorem InputDirectory.entryIsDirectory_eq (inside : tree.InputDirectory here input root)
    (name : Bytes) :
    tree.entryIsDirectory here input root name =
      match tree.lookup (root ++ [name]) with
      | some .directory => .ok true
      | some (.link _) =>
        match tree.locate here (Path.join input name) with
        | .error fault => .error (.entry (Path.join input name) fault)
        | .ok location =>
          if location = root then .error (.loop (Path.join input name) input)
          else .ok (tree.isDirectory here (Path.join input name))
      | _ => .ok false := by
  rw [entryIsDirectory]
  cases there : tree.lookup (root ++ [name]) with
  | none => rfl
  | some node =>
      cases node with
      | directory => rfl
      | file contents => rfl
      | link target =>
          cases located : tree.locate here (Path.join input name) with
          | error fault => rfl
          | ok location =>
              simp only [located, isDirectory, find]
              by_cases back : location = root
              · subst back
                simp [inside.directory]
              · cases found : tree.lookup location with
                | none =>
                    simp [back, found, bind, Except.bind, throw, throwThe, MonadExceptOf.throw]
                | some node =>
                    cases node <;> simp [back, found, bind, Except.bind, pure, Except.pure]

theorem InputDirectory.entryFault?_eq_some_iff (inside : tree.InputDirectory here input root)
    {error : WalkError} :
    tree.entryFault? here input root name = some error ↔
      tree.LinkFault here input root name error := by
  rw [entryFault?, inside.entryIsDirectory_eq]
  constructor
  · intro failed
    cases there : tree.lookup (root ++ [name]) with
    | none => simp [there] at failed
    | some node =>
        cases node with
        | directory => simp [there] at failed
        | file contents => simp [there] at failed
        | link target =>
            cases located : tree.locate here (Path.join input name) with
            | error fault =>
                simp only [there, located, Option.some.injEq] at failed
                exact failed ▸ .unresolved there located
            | ok location =>
                by_cases back : location = root
                · simp only [there, located, back, if_true, Option.some.injEq] at failed
                  exact failed ▸ .loop there (back ▸ located)
                · simp [there, located, back] at failed
  · intro fault
    cases fault with
    | unresolved there failed => simp [there, failed]
    | loop there back => simp [there, back]

theorem InputDirectory.entryIsFolder_iff (inside : tree.InputDirectory here input root)
    (sound : ∀ error, ¬tree.LinkFault here input root name error) :
    tree.entryIsFolder here input root name = true ↔
      tree.HasEntry here input name .directory := by
  rw [entryIsFolder, inside.entryIsDirectory_eq]
  constructor
  · intro folder
    cases there : tree.lookup (root ++ [name]) with
    | none => simp [there] at folder
    | some node =>
        cases node with
        | directory => exact .itself inside.located there (by simp)
        | file contents => simp [there] at folder
        | link target =>
            cases located : tree.locate here (Path.join input name) with
            | error fault => simp [there, located] at folder
            | ok location =>
                by_cases back : location = root
                · simp [there, located, back] at folder
                · simp only [there, located, back, if_false] at folder
                  exact .followed inside.located there (isDirectory_iff.mp folder)
  · intro entry
    cases entry with
    | itself located there plain =>
        cases inside.located.symm.trans located
        simp [there]
    | followed located there found =>
        cases inside.located.symm.trans located
        obtain ⟨location, leads, -⟩ := find_eq_ok_iff.mp found
        have ahead : location ≠ root := by
          rintro rfl
          exact sound _ (.loop there leads)
        simp [there, leads, ahead, isDirectory_iff.mpr found]

/-- One entry of the input directory: it ends the plan, or it is sorted in if it is a folder. -/
theorem bind_entryIsDirectory (tree : FileTree) (here : Location) (input : Bytes) (root : Location)
    (exclude : List String) (plan : Plan) (name : Bytes) :
    (do
      if ← (tree.entryIsDirectory here input root name).mapError PlanError.walk then
        return plan.add exclude (.ofFolder (Path.join input name) (Text.display name))
      else return plan) =
      orFail ((tree.entryFault? here input root name).map .walk)
        (if tree.entryIsFolder here input root name then
          plan.add exclude (.ofFolder (Path.join input name) (Text.display name))
        else plan) := by
  rw [entryFault?, entryIsFolder]
  cases tree.entryIsDirectory here input root name with
  | error fault => rfl
  | ok isDirectory => cases isDirectory <;> rfl

/-- The names of the entries that are folders, in the order of the listing. -/
def folderNames (tree : FileTree) (here : Location) (input : Bytes) (root : Location) :
    List Bytes :=
  (tree.sortedChildren root).filter (tree.entryIsFolder here input root)

theorem Distinct.folderNames_ascending (distinct : tree.Distinct) (here : Location)
    (input : Bytes) (root : Location) :
    (tree.folderNames here input root).Pairwise (· < ·) :=
  (distinct.sortedChildren_ascending root).filter _

theorem InputDirectory.mem_folderNames_iff (inside : tree.InputDirectory here input root)
    (sound : ∀ error, ¬tree.LinkFault here input root name error) :
    name ∈ tree.folderNames here input root ↔ tree.HasEntry here input name .directory := by
  rw [folderNames, List.mem_filter, inside.entryIsFolder_iff sound]
  constructor
  · rintro ⟨-, entry⟩
    exact entry
  · intro entry
    exact ⟨mem_sortedChildren_iff.mpr (entry.isSome_lookup inside.located), entry⟩

/-- The listing goes through if no link is faulty. -/
theorem InputDirectory.entryFault?_eq_none_iff (inside : tree.InputDirectory here input root) :
    (∀ name ∈ tree.sortedChildren root, tree.entryFault? here input root name = none) ↔
      ∀ name error, ¬tree.LinkFault here input root name error := by
  constructor
  · intro passed name error faulty
    have passes := passed name (mem_sortedChildren_iff.mpr faulty.isSome_lookup)
    rw [inside.entryFault?_eq_some_iff.mpr faulty] at passes
    cases passes
  · intro sound name _
    rw [Option.eq_none_iff_forall_ne_some]
    intro error faulty
    exact sound name error (inside.entryFault?_eq_some_iff.mp faulty)

end FileTree

/-- The folder of an entry of the input directory. -/
def RunFolder.ofEntry (input name : Bytes) : RunFolder :=
  .ofFolder (Path.join input name) (Text.display name)

namespace Plan

/-- The plan for folders of some names: those that an exclude list does not leave out, and the names
of the others, both in the order of the list. -/
def ofNames (input : Bytes) (exclude : List String) (names : List Bytes) : Plan :=
  ⟨(names.filter fun name => ¬Excludes exclude (Text.display name)).map (.ofEntry input),
    (names.filter fun name => Excludes exclude (Text.display name)).map Text.display⟩

theorem foldl_add (input : Bytes) (exclude : List String) (isFolder : Bytes → Bool)
    (names : List Bytes) (plan : Plan) :
    names.foldl (fun plan name =>
        if isFolder name then plan.add exclude (.ofEntry input name) else plan) plan =
      ⟨plan.folders ++ (ofNames input exclude (names.filter isFolder)).folders,
        plan.excluded ++ (ofNames input exclude (names.filter isFolder)).excluded⟩ := by
  induction names generalizing plan with
  | nil => simp [ofNames]
  | cons name rest inductionHypothesis =>
      rw [List.foldl_cons, inductionHypothesis]
      by_cases folder : isFolder name = true
      · rw [if_pos folder, List.filter_cons_of_pos folder, add]
        by_cases left : Excludes exclude (Text.display name)
        · have named : (RunFolder.ofEntry input name).isNamedBy exclude = true :=
            RunFolder.isNamedBy_ofFolder_iff.mpr left
          rw [if_pos named]
          simp [ofNames, left, RunFolder.ofEntry]
        · have unnamed : ¬(RunFolder.ofEntry input name).isNamedBy exclude = true :=
            fun named => left (RunFolder.isNamedBy_ofFolder_iff.mp named)
          rw [if_neg unnamed]
          simp [ofNames, left]
      · rw [if_neg folder, List.filter_cons_of_neg folder]

section Outcomes

variable {tree : FileTree} {here : Location} {input : Bytes} {exclude : List String}

/-- An input path that leads nowhere, or to something that is no directory, has no plan. -/
theorem ofTree_of_locate_error {fault : SystemError}
    (failed : tree.locate here input = .error fault) :
    ofTree tree here input exclude = .error (.inputDirectory input fault) := by
  rw [ofTree, failed]
  rfl

/-- Neither has one that leads to something other than a directory. -/
theorem ofTree_of_no_directory {root : Location} (located : tree.locate here input = .ok root)
    (other : tree.lookup root ≠ some .directory) :
    ofTree tree here input exclude = .error (.notADirectory input) := by
  rw [ofTree, located]
  simp only [Except.mapError, bind, Except.bind]
  rfl

/-- An input directory has one, unless some entry of it ends the listing. -/
theorem ofTree_of_directory {root : Location} (inside : tree.InputDirectory here input root) :
    ofTree tree here input exclude =
      orFail ((tree.sortedChildren root).findSome? fun name =>
          (tree.entryFault? here input root name).map .walk)
        (ofNames input exclude (tree.folderNames here input root)) := by
  have loop := foldlM_eq_orFail (tree.bind_entryIsDirectory here input root exclude)
    (tree.sortedChildren root) ⟨[], []⟩
  have sorted := foldl_add input exclude (tree.entryIsFolder here input root)
    (tree.sortedChildren root) ⟨[], []⟩
  simp only [RunFolder.ofEntry] at sorted
  rw [ofTree, inside.located]
  simp only [Except.mapError, bind, Except.bind, inside.directory] at loop ⊢
  rw [loop, sorted, List.nil_append, List.nil_append]
  rfl

/-- An input path leads nowhere, to something that is no directory, or to a directory. -/
theorem ofTree_cases (tree : FileTree) (here : Location) (input : Bytes) :
    (∃ fault, tree.locate here input = .error fault) ∨
      (∃ root, tree.locate here input = .ok root ∧ tree.lookup root ≠ some .directory) ∨
      ∃ root, tree.InputDirectory here input root := by
  cases located : tree.locate here input with
  | error fault => exact Or.inl ⟨fault, rfl⟩
  | ok root =>
      by_cases directory : tree.lookup root = some .directory
      · exact Or.inr (Or.inr ⟨root, located, directory⟩)
      · exact Or.inr (Or.inl ⟨root, rfl, directory⟩)

/-- In an ascending list the first hit is the least one. -/
theorem findSome?_eq_some_iff_least {α : Type} {names : List Bytes} {hit : Bytes → Option α}
    (ascending : names.Pairwise (· < ·)) {value : α} :
    names.findSome? hit = some value ↔
      ∃ name ∈ names, hit name = some value ∧
        ∀ other ∈ names, (hit other).isSome → name ≤ other := by
  rw [List.findSome?_eq_some_iff]
  constructor
  · rintro ⟨before, name, after, rfl, there, misses⟩
    refine ⟨name, by simp, there, ?_⟩
    intro other member isHit
    rw [List.pairwise_append, List.pairwise_cons] at ascending
    rcases List.mem_append.mp member with earlier | later
    · rw [misses other earlier] at isHit
      cases isHit
    · rcases List.mem_cons.mp later with rfl | behind
      · exact List.le_refl _
      · exact List.le_of_lt (ascending.2.1.1 other behind)
  · rintro ⟨name, member, there, least⟩
    obtain ⟨before, after, rfl⟩ := List.append_of_mem member
    refine ⟨before, name, after, rfl, there, ?_⟩
    intro other earlier
    rw [Option.eq_none_iff_forall_ne_some]
    intro otherValue isHit
    rw [List.pairwise_append] at ascending
    have less : other < name := ascending.2.2 other earlier name List.mem_cons_self
    have notLess : name ≤ other :=
      least other (List.mem_append_left _ earlier) (by rw [isHit]; rfl)
    exact notLess less

/-- What ends the listing of an input directory is the first faulty link in the order of names. -/
theorem ofTree_eq_error_of_directory (distinct : tree.Distinct) {root : Location}
    (inside : tree.InputDirectory here input root) {error : PlanError} :
    ofTree tree here input exclude = .error error ↔
      ∃ name fault, error = .walk fault ∧ tree.LinkFault here input root name fault ∧
        ∀ other otherFault, tree.LinkFault here input root other otherFault → name ≤ other := by
  rw [ofTree_of_directory inside, orFail_eq_error_iff,
    findSome?_eq_some_iff_least (distinct.sortedChildren_ascending root)]
  constructor
  · rintro ⟨name, -, failed, least⟩
    obtain ⟨fault, faulty, rfl⟩ := Option.map_eq_some_iff.mp failed
    refine ⟨name, fault, rfl, inside.entryFault?_eq_some_iff.mp faulty, ?_⟩
    intro other otherFault alsoFaulty
    refine least other (FileTree.mem_sortedChildren_iff.mpr alsoFaulty.isSome_lookup) ?_
    rw [inside.entryFault?_eq_some_iff.mpr alsoFaulty]
    rfl
  · rintro ⟨name, fault, rfl, faulty, least⟩
    refine ⟨name, FileTree.mem_sortedChildren_iff.mpr faulty.isSome_lookup, ?_, ?_⟩
    · rw [inside.entryFault?_eq_some_iff.mpr faulty]
      rfl
    · intro other _ isFaulty
      rw [Option.isSome_map] at isFaulty
      obtain ⟨otherFault, alsoFaulty⟩ := Option.isSome_iff_exists.mp isFaulty
      exact least other otherFault (inside.entryFault?_eq_some_iff.mp alsoFaulty)

theorem ofTree_eq_inputDirectory_iff (distinct : tree.Distinct) {path : Bytes}
    {fault : SystemError} :
    ofTree tree here input exclude = .error (.inputDirectory path fault) ↔
      path = input ∧ tree.locate here input = .error fault := by
  rcases ofTree_cases tree here input with ⟨other, failed⟩ | ⟨root, located, other⟩ | ⟨root, inside⟩
  · rw [ofTree_of_locate_error failed, failed]
    simp [eq_comm]
  · rw [ofTree_of_no_directory located other, located]
    simp
  · rw [ofTree_eq_error_of_directory distinct inside, inside.located]
    simp

theorem ofTree_eq_notADirectory_iff (distinct : tree.Distinct) {path : Bytes} :
    ofTree tree here input exclude = .error (.notADirectory path) ↔
      path = input ∧
        ∃ root, tree.locate here input = .ok root ∧ tree.lookup root ≠ some .directory := by
  rcases ofTree_cases tree here input with ⟨fault, failed⟩ | ⟨root, located, other⟩ | ⟨root, inside⟩
  · rw [ofTree_of_locate_error failed, failed]
    simp
  · rw [ofTree_of_no_directory located other]
    constructor
    · intro same
      cases same
      exact ⟨rfl, root, located, other⟩
    · rintro ⟨rfl, -⟩
      rfl
  · rw [ofTree_eq_error_of_directory distinct inside, inside.located]
    simp [inside.directory]

/-- The plan of an input directory has the folders of the ascending list of the names of all entries
that are directories. -/
theorem ofTree_eq_ok_iff (distinct : tree.Distinct) {plan : Plan} :
    ofTree tree here input exclude = .ok plan ↔
      ∃ root names, tree.InputDirectory here input root ∧
        (∀ name fault, ¬tree.LinkFault here input root name fault) ∧
        names.Pairwise (· < ·) ∧
        (∀ name, name ∈ names ↔ tree.HasEntry here input name .directory) ∧
        plan = ofNames input exclude names := by
  rcases ofTree_cases tree here input with ⟨other, failed⟩ | ⟨root, located, other⟩ | ⟨root, inside⟩
  · rw [ofTree_of_locate_error failed]
    constructor
    · intro same
      cases same
    · rintro ⟨root, -, inside, -⟩
      cases failed.symm.trans inside.located
  · rw [ofTree_of_no_directory located other]
    constructor
    · intro same
      cases same
    · rintro ⟨otherRoot, -, inside, -⟩
      cases located.symm.trans inside.located
      exact absurd inside.directory other
  · rw [ofTree_of_directory inside, orFail_eq_ok_iff, List.findSome?_eq_none_iff]
    simp only [Option.map_eq_none_iff, inside.entryFault?_eq_none_iff]
    constructor
    · rintro ⟨sound, rfl⟩
      exact ⟨root, _, inside, sound, distinct.folderNames_ascending here input root,
        fun name => inside.mem_folderNames_iff (sound name), rfl⟩
    · rintro ⟨otherRoot, names, alsoInside, sound, ascending, members, rfl⟩
      cases inside.located.symm.trans alsoInside.located
      have same : tree.folderNames here input root = names :=
        (distinct.folderNames_ascending here input root).eq_of_mem_iff ascending fun name =>
          (inside.mem_folderNames_iff (sound name)).trans (members name).symm
      exact ⟨sound, by rw [same]⟩

theorem exists_ofTree_eq_walk_iff (distinct : tree.Distinct) :
    (∃ fault, ofTree tree here input exclude = .error (.walk fault)) ↔
      ∃ root name fault, tree.InputDirectory here input root ∧
        tree.LinkFault here input root name fault := by
  constructor
  · rintro ⟨fault, failed⟩
    rcases ofTree_cases tree here input with ⟨other, lost⟩ | ⟨root, located, other⟩ | ⟨root, inside⟩
    · rw [ofTree_of_locate_error lost] at failed
      cases failed
    · rw [ofTree_of_no_directory located other] at failed
      cases failed
    · obtain ⟨name, other, -, faulty, -⟩ :=
        (ofTree_eq_error_of_directory distinct inside).mp failed
      exact ⟨root, name, other, inside, faulty⟩
  · rintro ⟨root, name, fault, inside, faulty⟩
    cases outcome : ofTree tree here input exclude with
    | ok plan =>
        obtain ⟨otherRoot, names, alsoInside, sound, -⟩ := (ofTree_eq_ok_iff distinct).mp outcome
        cases inside.located.symm.trans alsoInside.located
        exact absurd faulty (sound name fault)
    | error error =>
        obtain ⟨-, other, rfl, -⟩ := (ofTree_eq_error_of_directory distinct inside).mp outcome
        exact ⟨other, rfl⟩

/-- A plan does not depend on more of a tree than where the input path leads, which links in the
input directory are faulty, and which entries of it are directories. -/
theorem ofTree_congr {other : FileTree} {otherHere : Location} (distinct : tree.Distinct)
    (otherDistinct : other.Distinct)
    (located : other.locate otherHere input = tree.locate here input)
    (lookedUp : ∀ root, tree.locate here input = .ok root → other.lookup root = tree.lookup root)
    (faults : ∀ root name fault, tree.locate here input = .ok root →
      (other.LinkFault otherHere input root name fault ↔
        tree.LinkFault here input root name fault))
    (folders : ∀ name, other.HasEntry otherHere input name .directory ↔
      tree.HasEntry here input name .directory) :
    ofTree other otherHere input exclude = ofTree tree here input exclude := by
  rcases ofTree_cases tree here input with ⟨fault, failed⟩ | ⟨root, found, noDirectory⟩ |
    ⟨root, inside⟩
  · rw [ofTree_of_locate_error failed, ofTree_of_locate_error (located.trans failed)]
  · have alsoNone : other.lookup root ≠ some .directory := by rwa [lookedUp root found]
    rw [ofTree_of_no_directory found noDirectory,
      ofTree_of_no_directory (located.trans found) alsoNone]
  · have alsoInside : other.InputDirectory otherHere input root :=
      ⟨located.trans inside.located, (lookedUp root inside.located).trans inside.directory⟩
    cases outcome : ofTree tree here input exclude with
    | error error =>
        rw [ofTree_eq_error_of_directory distinct inside] at outcome
        rw [ofTree_eq_error_of_directory otherDistinct alsoInside]
        simpa only [faults root _ _ inside.located] using outcome
    | ok plan =>
        rw [ofTree_eq_ok_iff distinct] at outcome
        rw [ofTree_eq_ok_iff otherDistinct]
        obtain ⟨sameRoot, names, insideToo, sound, ascending, members, planned⟩ := outcome
        cases inside.located.symm.trans insideToo.located
        refine ⟨root, names, alsoInside, ?_, ascending, ?_, planned⟩
        · intro name fault
          rw [faults root name fault inside.located]
          exact sound name fault
        · intro name
          rw [members, folders]

/-- Trees in which the same stands everywhere have the same plan. -/
theorem ofTree_of_same_lookup {other : FileTree} (distinct : tree.Distinct)
    (otherDistinct : other.Distinct)
    (same : ∀ location, other.lookup location = tree.lookup location) :
    ofTree other here input exclude = ofTree tree here input exclude := by
  have located (path : Bytes) : other.locate here path = tree.locate here path :=
    FileTree.locate_of_agree fun location _ => same location
  have found (path : Bytes) : other.find here path = tree.find here path :=
    FileTree.find_of_agree fun location _ => same location
  refine ofTree_congr distinct otherDistinct (located input) (fun root _ => same root) ?_ ?_
  · intro root name fault _
    constructor
    · intro faulty
      exact faulty.transfer (same _).symm fun _ _ => (located _).symm
    · intro faulty
      exact faulty.transfer (same _) fun _ _ => located _
  · intro name
    constructor
    · intro entry
      obtain ⟨root, rooted⟩ := entry.exists_located
      exact entry.transfer rooted ((located input).symm.trans rooted) (same _).symm
        fun _ _ => (found _).symm
    · intro entry
      obtain ⟨root, rooted⟩ := entry.exists_located
      exact entry.transfer rooted ((located input).trans rooted) (same _) fun _ _ => found _

theorem eq_ofNames_iff {plan : Plan} {names : List Bytes} :
    plan = ofNames input exclude names ↔
      plan.folders =
          (names.filter fun name => ¬Excludes exclude (Text.display name)).map (.ofEntry input) ∧
        plan.excluded =
          (names.filter fun name => Excludes exclude (Text.display name)).map Text.display := by
  cases plan
  rw [ofNames, mk.injEq]

/-- Two lists of the same items that are not empty leave the same folders out. -/
theorem ofNames_congr {other : List String}
    (same : ∀ item, item ≠ "" → (item ∈ exclude ↔ item ∈ other)) (names : List Bytes) :
    ofNames input exclude names = ofNames input other names := by
  simp only [ofNames, excludes_congr same]

end Outcomes

end Plan

namespace FileTree

variable {tree : FileTree} {here root : Location} {input name : Bytes}

theorem exists_linkFault_iff :
    (∃ fault, tree.LinkFault here input root name fault) ↔
      (∃ target, tree.lookup (root ++ [name]) = some (.link target)) ∧
        ((∃ fault, tree.locate here (Path.join input name) = .error fault) ∨
          tree.locate here (Path.join input name) = .ok root) := by
  constructor
  · rintro ⟨fault, faulty⟩
    cases faulty with
    | unresolved there failed => exact ⟨⟨_, there⟩, Or.inl ⟨_, failed⟩⟩
    | loop there back => exact ⟨⟨_, there⟩, Or.inr back⟩
  · rintro ⟨⟨target, there⟩, ⟨fault, failed⟩ | back⟩
    · exact ⟨_, .unresolved there failed⟩
    · exact ⟨_, .loop there back⟩

/-- A link is not faulty if it leads somewhere, and not back. -/
theorem forall_not_linkFault_iff :
    (∀ fault, ¬tree.LinkFault here input root name fault) ↔
      ∀ target, tree.lookup (root ++ [name]) = some (.link target) →
        ∃ location, tree.locate here (Path.join input name) = .ok location ∧ location ≠ root := by
  rw [← not_exists, exists_linkFault_iff]
  constructor
  · intro sound target there
    cases located : tree.locate here (Path.join input name) with
    | error fault => exact absurd ⟨⟨target, there⟩, Or.inl ⟨fault, located⟩⟩ sound
    | ok location =>
        refine ⟨location, rfl, ?_⟩
        rintro rfl
        exact sound ⟨⟨target, there⟩, Or.inr located⟩
  · rintro sound ⟨⟨target, there⟩, failed⟩
    obtain ⟨location, located, ahead⟩ := sound target there
    rcases failed with ⟨fault, failed⟩ | back
    · cases located.symm.trans failed
    · cases located.symm.trans back
      exact ahead rfl

end FileTree

/-- The plan of a tree is told by the entries of its input directory. There is none if the input
path leads nowhere, or to no directory, or if a link in the directory leads nowhere or back to it.
Else each entry that is a directory, links followed, is planned or excluded, in ascending order of
the bytes of the names; it is excluded if an item of the exclude list is its name, or what stands in
front of the last dash of the name. The order in which the tree lists its entries does not matter,
and of the exclude list only which items it has that are not empty. -/
theorem ofTree_tells_entries {tree : FileTree} (distinct : tree.Distinct) (here : Location)
    (input : Bytes) (exclude : List String) :
    (∀ path fault, Plan.ofTree tree here input exclude = .error (.inputDirectory path fault) ↔
      path = input ∧ tree.locate here input = .error fault) ∧
    (∀ path, Plan.ofTree tree here input exclude = .error (.notADirectory path) ↔
      path = input ∧
        ∃ root, tree.locate here input = .ok root ∧ tree.lookup root ≠ some .directory) ∧
    ((∃ fault, Plan.ofTree tree here input exclude = .error (.walk fault)) ↔
      ∃ root name, tree.InputDirectory here input root ∧
        (∃ target, tree.lookup (root ++ [name]) = some (.link target)) ∧
        ((∃ fault, tree.locate here (Path.join input name) = .error fault) ∨
          tree.locate here (Path.join input name) = .ok root)) ∧
    (∀ plan, Plan.ofTree tree here input exclude = .ok plan ↔
      ∃ (root : Location) (names : List Bytes), tree.InputDirectory here input root ∧
        (∀ name target, tree.lookup (root ++ [name]) = some (.link target) →
          ∃ location, tree.locate here (Path.join input name) = .ok location ∧ location ≠ root) ∧
        names.Pairwise (· < ·) ∧
        (∀ name, name ∈ names ↔ tree.HasEntry here input name .directory) ∧
        plan.folders =
          (names.filter fun name => ¬Excludes exclude (Text.display name)).map (fun name =>
            .ofFolder (Path.join input name) (Text.display name)) ∧
        plan.excluded =
          (names.filter fun name => Excludes exclude (Text.display name)).map Text.display) ∧
    (∀ other : FileTree, other.entries.Perm tree.entries →
      Plan.ofTree other here input exclude = Plan.ofTree tree here input exclude) ∧
    ∀ other : List String, (∀ item, item ≠ "" → (item ∈ exclude ↔ item ∈ other)) →
      Plan.ofTree tree here input exclude = Plan.ofTree tree here input other := by
  refine ⟨fun path fault => Plan.ofTree_eq_inputDirectory_iff distinct,
    fun path => Plan.ofTree_eq_notADirectory_iff distinct, ?_, ?_, ?_, ?_⟩
  · rw [Plan.exists_ofTree_eq_walk_iff distinct]
    simp only [exists_and_left, FileTree.exists_linkFault_iff]
  · intro plan
    rw [Plan.ofTree_eq_ok_iff distinct]
    simp only [FileTree.forall_not_linkFault_iff, Plan.eq_ofNames_iff]
    rfl
  · intro other perm
    have same := distinct.lookup_of_perm perm
    exact Plan.ofTree_of_same_lookup distinct (distinct.of_perm perm) same
  · intro other same
    rcases Plan.ofTree_cases tree here input with ⟨fault, failed⟩ | ⟨root, located, noDirectory⟩ |
      ⟨root, inside⟩
    · rw [Plan.ofTree_of_locate_error failed, Plan.ofTree_of_locate_error failed]
    · rw [Plan.ofTree_of_no_directory located noDirectory,
        Plan.ofTree_of_no_directory located noDirectory]
    · rw [Plan.ofTree_of_directory inside, Plan.ofTree_of_directory inside,
        Plan.ofNames_congr same]

/-- A tree with a directory `in` that holds two folders, a file and a link to a folder elsewhere. -/
def listedTree : FileTree :=
  ⟨[([Path.ofString "in"], .directory), ([Path.ofString "in", Path.ofString "b-1"], .directory),
    ([Path.ofString "in", Path.ofString "notes"], .file (.bytes [])),
    ([Path.ofString "in", Path.ofString "a-1"], .link (Path.ofString "../far")),
    ([Path.ofString "in", Path.ofString "c-1"], .directory), ([Path.ofString "far"], .directory)]⟩

set_option maxRecDepth 10000 in
theorem ofTree_tells_entries_listed :
    listedTree.Distinct ∧
      ∃ names : List Bytes, names.Pairwise (· < ·) ∧
        (∀ name, name ∈ names ↔
          listedTree.HasEntry [] (Path.ofString "in") name .directory) ∧
        [RunFolder.ofFolder (Path.ofString "in/a-1") "a-1",
            .ofFolder (Path.ofString "in/b-1") "b-1"] =
          (names.filter fun name => ¬Excludes ["c", ""] (Text.display name)).map (fun name =>
            .ofFolder (Path.join (Path.ofString "in") name) (Text.display name)) ∧
        ["c-1"] =
          (names.filter fun name => Excludes ["c", ""] (Text.display name)).map Text.display := by
  have distinct : listedTree.Distinct := by
    rw [FileTree.Distinct]
    decide
  have planned : Plan.ofTree listedTree [] (Path.ofString "in") ["c", ""] =
      .ok ⟨[.ofFolder (Path.ofString "in/a-1") "a-1", .ofFolder (Path.ofString "in/b-1") "b-1"],
        ["c-1"]⟩ := by
    cbv
  obtain ⟨-, -, -, told, -, -⟩ := ofTree_tells_entries distinct [] (Path.ofString "in") ["c", ""]
  obtain ⟨root, names, -, -, ascending, members, folders, excluded⟩ := (told _).mp planned
  exact ⟨distinct, names, ascending, members, folders, excluded⟩

end Occupancy
