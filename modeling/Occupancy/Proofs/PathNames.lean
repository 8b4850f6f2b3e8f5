/-
Module: Occupancy.Proofs.PathNames
Purpose: What a name leads to from its directory, and from the top by the path of the directory.
Main exports: FileTree.PlainName, FileTree.LinkLeads, FileTree.PlainName.find_eq_ok_iff,
  RealDirectory, find_absolute, pathExists_absolute_iff, footprint_absolute_of_no_link
-/
import Mathlib
import Occupancy.Proofs.Folds
import Occupancy.Proofs.PathFootprint

namespace Occupancy

/-!
A path of one name takes one turn: it leads to the entry of this name in the directory where it
begins, or goes on where the link there leads. So what it makes a walk look at is told without the
walk, unless there is a link.

A directory is given by its location or by its absolute path. The two are the same for a directory
that is really there, with only directories on the way to it: the walk from the top takes one turn for
each name, looks at no other location, and comes to the directory. But a path that is too long is
refused before the first turn, and then nothing in the directory can be reached by its absolute path.
-/

theorem Part.split_eq_splitOn (path : Bytes) : Part.split [] path = path.splitOn Path.slash :=
  eq_splitOn_of_cuts (fun _ => rfl) (fun _ _ _ => by rw [split]) path

namespace FileTree

/-- A name that a path can have as a part, and that an entry can have. -/
structure PlainName (name : Bytes) : Prop where
  part : Part.ofBytes? name = some (.name name)
  slashless : Path.slash ∉ name
  nulless : 0 ∉ name
  fits : name.length ≤ nameLimit

/-- The path of a link in a directory leads to this. It may go through one link fewer than a path
that begins there, because the link itself is one. -/
def LinkLeads (tree : FileTree) (directory : Location) (target : Bytes) (node : Node) : Prop :=
  ∃ location, tree.walkLinks false (linkLimit - 1) (origin directory target)
      (Part.ofPathStrict target) = .ok (.existing location) ∧
    tree.lookup location = some node

section Turn

variable {tree : FileTree} {directory next : Location} {name target : Bytes}

theorem eq_concat_of_onward (turned : tree.turn directory (.name name) = .onward next) :
    next = directory ++ [name] := by
  rw [turn.eq_def] at turned
  split at turned
  · simp only at turned
    split at turned
    · cases turned
    · split at turned <;> cases turned
      rfl
  · cases turned

theorem lookup_of_linked (turned : tree.turn directory (.name name) = .linked target) :
    tree.lookup (directory ++ [name]) = some (.link target) := by
  rw [turn.eq_def] at turned
  split at turned
  · simp only at turned
    split at turned
    · cases turned
    · split at turned
      · cases turned
      · next there =>
          cases turned
          exact there
      · cases turned
  · cases turned

/-- Where directories of some names stand below each other, a walk goes on from the first, and the
others stand below it. -/
theorem turn_directories {others : List Bytes} (fits : name.length ≤ nameLimit)
    (standing : ∀ front, front <+: name :: others →
      tree.lookup (directory ++ front) = some .directory) :
    tree.turn directory (.name name) = .onward (directory ++ [name]) ∧
      ∀ front, front <+: others →
        tree.lookup (directory ++ [name] ++ front) = some .directory := by
  have here : tree.lookup directory = some .directory := by
    simpa using standing [] List.nil_prefix
  have there : tree.lookup (directory ++ [name]) = some .directory := standing [name] (by simp)
  refine ⟨by simp only [turn, here, there, if_neg (Nat.not_lt.mpr fits)], ?_⟩
  intro front around
  rw [List.append_assoc]
  exact standing (name :: front) ((List.prefix_cons_inj name).mpr around)

end Turn

namespace PlainName

variable {tree : FileTree} {directory : Location} {name : Bytes} {node : Node}

theorem ne_nil (plain : PlainName name) : name ≠ [] := by
  rintro rfl
  cases plain.part

theorem getLast?_ne_slash (plain : PlainName name) : name.getLast? ≠ some Path.slash :=
  fun last => plain.slashless (List.mem_of_getLast? last)

theorem isAbsolute_eq_false (plain : PlainName name) : Path.isAbsolute name = false := by
  rw [Path.isAbsolute, beq_eq_false_iff_ne]
  exact fun first => plain.slashless (List.mem_of_head? first)

theorem ofPathStrict_eq (plain : PlainName name) : Part.ofPathStrict name = [.name name] := by
  rw [Part.ofPathStrict, Part.ofPath, Part.split_eq_splitOn,
    List.splitOn_eq_singleton plain.slashless, if_neg (by simpa using plain.getLast?_ne_slash)]
  simp [plain.part]

theorem checkPath_eq (plain : PlainName name) : checkPath name = .ok () := by
  have short : name.length < pathLimit := Nat.lt_of_le_of_lt plain.fits (by decide)
  simp [checkPath, plain.nulless, plain.ne_nil, Nat.not_le.mpr short]

/-- A name alone begins where one is, and is taken in one turn. -/
theorem walk_eq (plain : PlainName name) (tree : FileTree) (directory : Location) :
    tree.walk directory name =
      tree.walkLinks false linkLimit directory [.name name] := by
  rw [FileTree.walk_eq, plain.checkPath_eq, plain.ofPathStrict_eq, origin, plain.isAbsolute_eq_false]
  rfl

theorem walk_eq_turn (plain : PlainName name) (tree : FileTree) (directory : Location) :
    tree.walk directory name =
      match tree.turn directory (.name name) with
      | .refused fault => .error fault
      | .missing name => .ok (.vacant directory name)
      | .onward next => .ok (.existing next)
      | .linked target =>
        tree.walkLinks false (linkLimit - 1) (origin directory target)
          (Part.ofPathStrict target) := by
  rw [plain.walk_eq, show linkLimit = (linkLimit - 1) + 1 from rfl, walkLinks, walkParts_cons]
  cases tree.turn directory (.name name) with
  | refused fault => rfl
  | missing name => rfl
  | onward next => rfl
  | linked target => simp

/-- A name leads to what stands there in the directory, or to what its link leads to. -/
theorem find_eq_ok_iff (plain : PlainName name) :
    tree.find directory name = .ok node ↔
      tree.lookup directory = some .directory ∧
        ((tree.lookup (directory ++ [name]) = some node ∧ ∀ target, node ≠ .link target) ∨
          ∃ target, tree.lookup (directory ++ [name]) = some (.link target) ∧
            tree.LinkLeads directory target node) := by
  rw [FileTree.find_eq_ok_iff]
  simp only [locate_eq_ok_iff, plain.walk_eq_turn, turn]
  cases tree.lookup directory with
  | none => simp
  | some standing =>
      cases standing with
      | file contents => simp
      | link target => simp
      | directory =>
          rw [if_neg (Nat.not_lt.mpr plain.fits)]
          cases there : tree.lookup (directory ++ [name]) with
          | none => simp
          | some found =>
              cases found with
              | directory => cases node <;> simp [there]
              | file contents => cases node <;> simp [there]
              | link target => cases node <;> simp [LinkLeads]

/-- Something is there under a name if there is an entry, and this is no link that leads nowhere. -/
theorem pathExists_iff (plain : PlainName name) :
    tree.pathExists directory name = true ↔
      tree.lookup directory = some .directory ∧
        ∃ node, tree.lookup (directory ++ [name]) = some node ∧
          ∀ target, node = .link target → ∃ other, tree.LinkLeads directory target other := by
  have found : tree.pathExists directory name = true ↔
      ∃ node, tree.find directory name = .ok node := by
    rw [pathExists]
    cases tree.find directory name <;> simp [Except.isOk, Except.toBool]
  rw [found]
  simp only [plain.find_eq_ok_iff, exists_and_left]
  apply and_congr_right
  intro _
  constructor
  · rintro ⟨node, ⟨there, noLink⟩ | ⟨target, there, leads⟩⟩
    · exact ⟨node, there, fun target link => absurd link (noLink target)⟩
    · refine ⟨.link target, there, ?_⟩
      intro other same
      cases same
      exact ⟨node, leads⟩
  · rintro ⟨node, there, resolved⟩
    cases node with
    | directory => exact ⟨.directory, Or.inl ⟨there, by simp⟩⟩
    | file contents => exact ⟨.file contents, Or.inl ⟨there, by simp⟩⟩
    | link target =>
        obtain ⟨other, leads⟩ := resolved target rfl
        exact ⟨other, Or.inr ⟨target, there, leads⟩⟩

end PlainName

section Footprints

variable {tree : FileTree} {here directory location : Location} {name : Bytes}
  {marks : Location → Bytes → List Part → List Location}

/-- Without a link a name makes a walk look at the directory and at the entry only. -/
theorem partsFootprint_of_no_link
    (noLink : ∀ target, tree.lookup (directory ++ [name]) ≠ some (.link target))
    (seen : location ∈ tree.partsFootprint marks directory [.name name]) :
    location = directory ∨ location = directory ++ [name] := by
  rw [partsFootprint] at seen
  cases turned : tree.turn directory (.name name) with
  | refused fault => simpa [turned, sights] using seen
  | missing name => simpa [turned, sights] using seen
  | onward next =>
      simpa [turned, sights, partsFootprint, eq_concat_of_onward turned, or_assoc] using seen
  | linked target => exact absurd (lookup_of_linked turned) (noLink target)

/-- Names of directories make a walk look at these directories, before it goes on from the last. -/
theorem partsFootprint_directories {names : List Bytes} {rest : List Part}
    (fits : ∀ name ∈ names, name.length ≤ nameLimit)
    (standing : ∀ front, front <+: names → tree.lookup (here ++ front) = some .directory)
    (seen : location ∈ tree.partsFootprint marks here (names.map .name ++ rest)) :
    (∃ front, front <+: names ∧ location = here ++ front) ∨
      location ∈ tree.partsFootprint marks (here ++ names) rest := by
  induction names generalizing here with
  | nil => exact Or.inr (by simpa using seen)
  | cons name others inductionHypothesis =>
      obtain ⟨first, further⟩ := turn_directories (fits name List.mem_cons_self) standing
      rw [List.map_cons, List.cons_append, partsFootprint, first, List.mem_append] at seen
      rcases seen with sight | later
      · left
        rcases List.mem_pair.mp sight with rfl | rfl
        · exact ⟨[], List.nil_prefix, (List.append_nil _).symm⟩
        · exact ⟨[name], by simp, rfl⟩
      · rcases inductionHypothesis (fun other member => fits other (List.mem_cons_of_mem _ member))
          further later with ⟨front, around, rfl⟩ | last
        · refine Or.inl ⟨name :: front, (List.prefix_cons_inj name).mpr around, ?_⟩
          rw [List.append_assoc, List.singleton_append]
        · rw [List.append_assoc, List.singleton_append] at last
          exact Or.inr last

end Footprints

end FileTree

section Absolute

open FileTree

variable {tree : FileTree} {directory : Location} {name : Bytes}

/-- Names with slashes between them are cut apart again. -/
theorem splitOn_flatMap_slash {names : List Bytes} (slashless : ∀ name ∈ names, Path.slash ∉ name)
    {first : Bytes} (alsoSlashless : Path.slash ∉ first) :
    (first ++ names.flatMap (Path.slash :: ·)).splitOn Path.slash = first :: names := by
  induction names generalizing first with
  | nil => rw [List.flatMap_nil, List.append_nil, List.splitOn_eq_singleton alsoSlashless]
  | cons name rest inductionHypothesis =>
      rw [List.forall_mem_cons] at slashless
      rw [List.flatMap_cons, List.cons_append, List.splitOn_append_cons_self,
        inductionHypothesis slashless.2 slashless.1, List.splitOn_eq_singleton alsoSlashless]
      rfl

theorem getLast?_flatMap_slash (plain : PlainName name) (names : List Bytes) :
    ((names ++ [name]).flatMap (Path.slash :: ·)).getLast? = name.getLast? := by
  obtain ⟨first, rest, split⟩ := List.exists_cons_of_ne_nil plain.ne_nil
  rw [List.flatMap_append, List.flatMap_singleton,
    List.getLast?_append_of_ne_nil _ (List.cons_ne_nil _ _), split, List.getLast?_cons_cons]

/-- The path of an entry is the one of its directory with one more name. -/
theorem join_ofLocation (names : ∀ name ∈ directory, PlainName name) (plain : PlainName name) :
    Path.join (Path.ofLocation directory) name =
      (directory ++ [name]).flatMap (Path.slash :: ·) := by
  rw [Path.join, plain.isAbsolute_eq_false]
  induction directory using List.reverseRecOn with
  | nil => simp [Path.ofLocation]
  | append_singleton outer last _ =>
      have plainLast : PlainName last := names last (by simp)
      have below : Path.ofLocation (outer ++ [last]) =
          (outer ++ [last]).flatMap (Path.slash :: ·) := by
        rw [Path.ofLocation, if_neg (by simp)]
      have entry : (outer ++ [last] ++ [name]).flatMap (Path.slash :: ·) =
          (outer ++ [last]).flatMap (Path.slash :: ·) ++ Path.slash :: name := by
        rw [List.flatMap_append, List.flatMap_singleton]
      rw [below, entry, getLast?_flatMap_slash plainLast]
      simp [plainLast.getLast?_ne_slash]

/-- The parts of the path of an entry are the names on the way to it. -/
theorem ofPathStrict_join_ofLocation (names : ∀ name ∈ directory, PlainName name)
    (plain : PlainName name) :
    Part.ofPathStrict (Path.join (Path.ofLocation directory) name) =
      directory.map .name ++ [.name name] := by
  have slashless : ∀ part ∈ directory ++ [name], Path.slash ∉ part := by
    intro part member
    rcases List.mem_append.mp member with inside | last
    · exact (names part inside).slashless
    · rw [List.mem_singleton.mp last]
      exact plain.slashless
  have pieces := splitOn_flatMap_slash slashless (List.not_mem_nil (a := Path.slash))
  have parts : directory.filterMap Part.ofBytes? = directory.map .name := by
    rw [← List.filterMap_eq_map]
    exact List.filterMap_congr fun part member => (names part member).part
  rw [List.nil_append] at pieces
  rw [join_ofLocation names plain, Part.ofPathStrict, Part.ofPath, Part.split_eq_splitOn, pieces,
    getLast?_flatMap_slash plain, if_neg (by simpa using plain.getLast?_ne_slash), List.append_nil,
    List.filterMap_cons_none rfl, List.filterMap_append, parts]
  simp [plain.part]

/-- A directory that is there, as are all those around it, with names that entries can have. -/
structure RealDirectory (tree : FileTree) (directory : Location) : Prop where
  names : ∀ name ∈ directory, PlainName name
  standing : ∀ front, front <+: directory → tree.lookup front = some .directory

/-- A walk goes down through directories by their names. -/
theorem walkParts_directories {follow : Location → Bytes → List Part → Except SystemError Spot}
    {here : Location} {names : List Bytes} (fits : ∀ name ∈ names, name.length ≤ nameLimit)
    (standing : ∀ front, front <+: names → tree.lookup (here ++ front) = some .directory)
    (rest : List Part) :
    tree.walkParts false follow here (names.map .name ++ rest) =
      tree.walkParts false follow (here ++ names) rest := by
  induction names generalizing here with
  | nil => simp
  | cons name others inductionHypothesis =>
      obtain ⟨first, further⟩ := turn_directories (fits name List.mem_cons_self) standing
      rw [List.map_cons, List.cons_append, walkParts_cons, first]
      simp only
      rw [inductionHypothesis (fun other member => fits other (List.mem_cons_of_mem _ member))
        further, List.append_assoc, List.singleton_append]

theorem RealDirectory.of_prefix {inner : Location} (real : RealDirectory tree directory)
    (around : inner <+: directory) : RealDirectory tree inner where
  names := fun name member => real.names name (around.subset member)
  standing := fun front before => real.standing front (before.trans around)

theorem isAbsolute_join_ofLocation (real : RealDirectory tree directory) (plain : PlainName name) :
    Path.isAbsolute (Path.join (Path.ofLocation directory) name) = true := by
  rw [join_ofLocation real.names plain]
  cases directory <;> rfl

/-- An absolute path with such names can be followed unless it is too long. -/
theorem checkPath_join_ofLocation (real : RealDirectory tree directory) (plain : PlainName name) :
    checkPath (Path.join (Path.ofLocation directory) name) =
      if pathLimit ≤ (Path.join (Path.ofLocation directory) name).length then
        .error .nameTooLong
      else .ok () := by
  have nulless : 0 ∉ Path.join (Path.ofLocation directory) name := by
    rw [join_ofLocation real.names plain, List.mem_flatMap]
    rintro ⟨part, member, nul⟩
    rcases List.mem_cons.mp nul with slash | inside
    · cases slash
    · rcases List.mem_append.mp member with within | last
      · exact (real.names part within).nulless inside
      · rw [List.mem_singleton.mp last] at inside
        exact plain.nulless inside
  have present : Path.join (Path.ofLocation directory) name ≠ [] := by
    intro empty
    have absolute := isAbsolute_join_ofLocation real plain
    rw [empty] at absolute
    cases absolute
  simp [checkPath, nulless, present]

/-- A name leads from its directory to the same as the absolute path does, if that can be followed. -/
theorem find_absolute (real : RealDirectory tree directory) (plain : PlainName name)
    (short : (Path.join (Path.ofLocation directory) name).length < pathLimit) :
    tree.find [] (Path.join (Path.ofLocation directory) name) = tree.find directory name := by
  have sameWalk : tree.walk [] (Path.join (Path.ofLocation directory) name) =
      tree.walk directory name := by
    rw [FileTree.walk_eq, checkPath_join_ofLocation real plain, if_neg (Nat.not_le.mpr short),
      plain.walk_eq, ofPathStrict_join_ofLocation real.names plain, origin,
      isAbsolute_join_ofLocation real plain, show linkLimit = (linkLimit - 1) + 1 from rfl]
    simp only [if_true]
    rw [walkLinks, walkParts_directories (fun part member => (real.names part member).fits)
      real.standing, List.nil_append]
  rw [find, find, locate, locate, sameWalk]

theorem find_absolute_of_long (real : RealDirectory tree directory) (plain : PlainName name)
    (long : pathLimit ≤ (Path.join (Path.ofLocation directory) name).length) :
    tree.find [] (Path.join (Path.ofLocation directory) name) = .error .nameTooLong := by
  rw [find, locate, FileTree.walk_eq, checkPath_join_ofLocation real plain, if_pos long]
  rfl

/-- Something is there at the absolute path of an entry if the path is not too long, there is the
entry, and this is no link that leads nowhere. -/
theorem pathExists_absolute_iff (real : RealDirectory tree directory) (plain : PlainName name) :
    tree.pathExists [] (Path.join (Path.ofLocation directory) name) = true ↔
      (Path.join (Path.ofLocation directory) name).length < pathLimit ∧
        ∃ node, tree.lookup (directory ++ [name]) = some node ∧
          ∀ target, node = .link target → ∃ other, tree.LinkLeads directory target other := by
  by_cases short : (Path.join (Path.ofLocation directory) name).length < pathLimit
  · rw [pathExists, find_absolute real plain short, ← pathExists, plain.pathExists_iff,
      and_iff_right (real.standing directory List.prefix_rfl), and_iff_right short]
  · rw [pathExists, find_absolute_of_long real plain (Nat.not_lt.mp short)]
    simp [short, Except.isOk, Except.toBool]

/-- Unless the entry is a link, its absolute path makes a walk look at the directories on the way and
at the entry only. -/
theorem footprint_absolute_of_no_link (real : RealDirectory tree directory)
    (plain : PlainName name)
    (noLink : ∀ target, tree.lookup (directory ++ [name]) ≠ some (.link target)) :
    ∀ location ∈ tree.footprint [] (Path.join (Path.ofLocation directory) name),
      location <+: directory ∨ location = directory ++ [name] := by
  intro location seen
  rw [footprint, checkPath_join_ofLocation real plain] at seen
  split at seen
  · cases seen
  · next passes =>
      rw [ofPathStrict_join_ofLocation real.names plain, origin,
        isAbsolute_join_ofLocation real plain, if_pos rfl,
        show linkLimit = (linkLimit - 1) + 1 from rfl, linksFootprint] at seen
      rcases partsFootprint_directories (fun part member => (real.names part member).fits)
        real.standing seen with ⟨front, around, rfl⟩ | last
      · exact Or.inl around
      · rcases partsFootprint_of_no_link noLink last with rfl | rfl
        · exact Or.inl List.prefix_rfl
        · exact Or.inr rfl

end Absolute

end Occupancy
