/-
Module: Occupancy.Proofs.PathFootprint
Purpose: The locations that are looked up while a path is followed.
Main exports: FileTree.footprint, FileTree.locate_of_agree, FileTree.find_of_agree,
  FileTree.isSome_of_find, FileTree.Avoids, FileTree.find_of_extends
-/
import Occupancy.FileTree.Operations
import Occupancy.Proofs.Folds

namespace Occupancy.FileTree

/-!
A path is followed part by part, and each part makes the walk look at one location or two: the
directory where it stands, and what has the next name in it. A link sends the walk elsewhere. The
footprint of a path is the list of all these locations. What a path leads to depends on nothing else
in a tree, so a change outside of the footprint goes unnoticed.

`turn` says once what a walk does with one part. The walk and its footprint both go by it, and each
fact about the two is an induction on the parts with one case for each turn.
-/

/-- What a walk does with the next part of a path: it is refused, it finds nothing of the name, it
goes on from a location, or it has come to a link. -/
inductive Turn where
  | refused (fault : SystemError)
  | missing (name : Bytes)
  | onward (next : Location)
  | linked (target : Bytes)

/-- The turn of a walk that stands at a location. -/
def turn (tree : FileTree) (here : Location) (part : Part) : Turn :=
  match tree.lookup here with
  | some .directory =>
    match part with
    | .here => .onward here
    | .up => .onward here.dropLast
    | .name name =>
      if nameLimit < name.length then .refused .nameTooLong
      else
        match tree.lookup (here ++ [name]) with
        | none => .missing name
        | some (.link target) => .linked target
        | some _ => .onward (here ++ [name])
  | _ => .refused .notADirectory

/-- The locations on which a turn depends. -/
def sights (here : Location) : Part → List Location
  | .here | .up => [here]
  | .name name => [here, here ++ [name]]

/-- The locations that the parts of a path make a walk look up, and the one where it ends. A link is
handed over together with what is left. -/
def partsFootprint (tree : FileTree) (follow : Location → Bytes → List Part → List Location)
    (here : Location) : List Part → List Location
  | [] => [here]
  | part :: rest =>
    sights here part ++
      match tree.turn here part with
      | .refused _ | .missing _ => []
      | .onward next => partsFootprint tree follow next rest
      | .linked target => follow here target rest

/-- The locations that are looked up through so many links at the most. -/
def linksFootprint (tree : FileTree) : (links : Nat) → Location → List Part → List Location
  | 0 => partsFootprint tree fun _ _ _ => []
  | links + 1 => partsFootprint tree fun here path rest =>
    linksFootprint tree links (origin here path) (Part.ofPathStrict path ++ rest)

/-- The locations that are looked up while a path is followed to the end. -/
def footprint (tree : FileTree) (here : Location) (path : Bytes) : List Location :=
  match checkPath path with
  | .error _ => []
  | .ok () => tree.linksFootprint linkLimit (origin here path) (Part.ofPathStrict path)

/-- A walk takes its turns one after the other. -/
theorem walkParts_cons (tree : FileTree)
    (follow : Location → Bytes → List Part → Except SystemError Spot) (here : Location)
    (part : Part) (rest : List Part) :
    tree.walkParts false follow here (part :: rest) =
      match tree.turn here part with
      | .refused fault => .error fault
      | .missing name => if rest.isEmpty then .ok (.vacant here name) else .error .notFound
      | .onward next => tree.walkParts false follow next rest
      | .linked target => follow here target rest := by
  rw [walkParts.eq_def, turn.eq_def]
  cases tree.lookup here with
  | none => rfl
  | some node =>
      cases node with
      | file contents => rfl
      | link target => rfl
      | directory =>
          cases part with
          | here => rfl
          | up => rfl
          | name name =>
              simp only
              split
              · rfl
              · cases tree.lookup (here ++ [name]) with
                | none => rfl
                | some node => cases node <;> simp

theorem walk_eq (tree : FileTree) (here : Location) (path : Bytes) :
    tree.walk here path =
      match checkPath path with
      | .error fault => .error fault
      | .ok () => tree.walkLinks false linkLimit (origin here path) (Part.ofPathStrict path) := by
  rw [walk]
  cases checkPath path <;> rfl

theorem locate_eq_ok_iff {tree : FileTree} {here location : Location} {path : Bytes} :
    tree.locate here path = .ok location ↔ tree.walk here path = .ok (.existing location) := by
  rw [locate, bind_eq_ok_iff]
  constructor
  · rintro ⟨spot, walked, ending⟩
    cases spot with
    | vacant directory name => cases ending
    | existing location =>
        cases ending
        exact walked
  · intro walked
    exact ⟨_, walked, rfl⟩

theorem find_eq_ok_iff {tree : FileTree} {here : Location} {path : Bytes} {node : Node} :
    tree.find here path = .ok node ↔
      ∃ location, tree.locate here path = .ok location ∧ tree.lookup location = some node := by
  rw [find, bind_eq_ok_iff]
  apply exists_congr
  intro location
  apply and_congr_right
  intro _
  cases tree.lookup location with
  | none => simp [throw, throwThe, MonadExceptOf.throw]
  | some found => simp [pure, Except.pure]

theorem isDirectory_iff {tree : FileTree} {here : Location} {path : Bytes} :
    tree.isDirectory here path = true ↔ tree.find here path = .ok .directory := by
  rw [isDirectory]
  cases tree.find here path with
  | error fault => simp
  | ok node => cases node <;> simp

section Agreement

variable {tree other : FileTree}

theorem turn_of_agree {here : Location} {part : Part}
    (agree : ∀ location ∈ sights here part, other.lookup location = tree.lookup location) :
    other.turn here part = tree.turn here part := by
  cases part with
  | here => rw [turn, turn, agree here (by simp [sights])]
  | up => rw [turn, turn, agree here (by simp [sights])]
  | name name =>
      rw [turn, turn, agree here (by simp [sights]), agree (here ++ [name]) (by simp [sights])]

/-- Two trees that agree on the footprint of a walk send it the same way. -/
theorem walkParts_of_agree
    {follow otherFollow : Location → Bytes → List Part → Except SystemError Spot}
    {marks : Location → Bytes → List Part → List Location}
    (linked : ∀ here target rest,
      (∀ location ∈ marks here target rest, other.lookup location = tree.lookup location) →
        otherFollow here target rest = follow here target rest)
    (here : Location) (parts : List Part)
    (agree : ∀ location ∈ tree.partsFootprint marks here parts,
      other.lookup location = tree.lookup location) :
    other.walkParts false otherFollow here parts = tree.walkParts false follow here parts := by
  induction parts generalizing here with
  | nil => rfl
  | cons part rest inductionHypothesis =>
      rw [partsFootprint, List.forall_mem_append] at agree
      obtain ⟨seen, further⟩ := agree
      rw [walkParts_cons, walkParts_cons, turn_of_agree seen]
      cases turned : tree.turn here part with
      | refused fault => rfl
      | missing name => rfl
      | onward next =>
          rw [turned] at further
          exact inductionHypothesis next further
      | linked target =>
          rw [turned] at further
          exact linked here target rest further

theorem walkLinks_of_agree (links : Nat) (here : Location) (parts : List Part)
    (agree : ∀ location ∈ tree.linksFootprint links here parts,
      other.lookup location = tree.lookup location) :
    other.walkLinks false links here parts = tree.walkLinks false links here parts := by
  induction links generalizing here parts with
  | zero => exact walkParts_of_agree (fun _ _ _ _ => rfl) here parts agree
  | succ links inductionHypothesis =>
      exact walkParts_of_agree (fun here target rest => inductionHypothesis _ _) here parts agree

variable {here : Location} {path : Bytes}

/-- Where two trees agree on the footprint of a path, it has the same location in both. -/
theorem locate_of_agree
    (agree : ∀ location ∈ tree.footprint here path,
      other.lookup location = tree.lookup location) :
    other.locate here path = tree.locate here path := by
  have sameWalk : other.walk here path = tree.walk here path := by
    rw [footprint] at agree
    rw [walk_eq, walk_eq]
    cases checked : checkPath path with
    | error fault => rfl
    | ok fine =>
        rw [checked] at agree
        exact walkLinks_of_agree _ _ _ agree
  rw [locate, locate, sameWalk]

end Agreement

section Success

variable {tree : FileTree} {here ending : Location} {path : Bytes}

/-- A turn that lets a walk go on has seen nothing but what is there. -/
theorem isSome_of_turn {part : Part} (allowed : ∀ fault, tree.turn here part ≠ .refused fault)
    (found : ∀ name, tree.turn here part ≠ .missing name) :
    ∀ location ∈ sights here part, (tree.lookup location).isSome := by
  have directory : tree.lookup here = some .directory := by
    rw [turn.eq_def] at allowed
    cases standing : tree.lookup here with
    | none => simp [standing] at allowed
    | some node => cases node <;> simp [standing] at allowed ⊢
  cases part with
  | here => simp [sights, directory]
  | up => simp [sights, directory]
  | name name =>
      rw [turn.eq_def, directory] at allowed found
      have next : (tree.lookup (here ++ [name])).isSome := by
        cases next : tree.lookup (here ++ [name]) with
        | none =>
            simp only [next] at allowed found
            split at allowed
            · exact absurd rfl (allowed .nameTooLong)
            · next fits => simp [fits] at found
        | some node => rfl
      simp [sights, directory, next]

/-- A walk that ends somewhere has this end in its footprint, and everything else in it is there. -/
theorem ending_of_walkParts {follow : Location → Bytes → List Part → Except SystemError Spot}
    {marks : Location → Bytes → List Part → List Location}
    (linked : ∀ here target rest, follow here target rest = .ok (.existing ending) →
      ending ∈ marks here target rest ∧
        ∀ location ∈ marks here target rest,
          location = ending ∨ (tree.lookup location).isSome)
    (here : Location) (parts : List Part)
    (walked : tree.walkParts false follow here parts = .ok (.existing ending)) :
    ending ∈ tree.partsFootprint marks here parts ∧
      ∀ location ∈ tree.partsFootprint marks here parts,
        location = ending ∨ (tree.lookup location).isSome := by
  induction parts generalizing here with
  | nil =>
      cases walked
      simp [partsFootprint]
  | cons part rest inductionHypothesis =>
      rw [walkParts_cons] at walked
      rw [partsFootprint, List.mem_append, List.forall_mem_append]
      cases turned : tree.turn here part with
      | refused fault =>
          rw [turned] at walked
          cases walked
      | missing name =>
          rw [turned] at walked
          simp only at walked
          split at walked <;> cases walked
      | onward next =>
          rw [turned] at walked
          obtain ⟨last, others⟩ := inductionHypothesis next walked
          have seen : ∀ location ∈ sights here part, (tree.lookup location).isSome :=
            isSome_of_turn (by simp [turned]) (by simp [turned])
          exact ⟨Or.inr last, fun location sight => Or.inr (seen location sight), others⟩
      | linked target =>
          rw [turned] at walked
          obtain ⟨last, others⟩ := linked here target rest walked
          have seen : ∀ location ∈ sights here part, (tree.lookup location).isSome :=
            isSome_of_turn (by simp [turned]) (by simp [turned])
          exact ⟨Or.inr last, fun location sight => Or.inr (seen location sight), others⟩

theorem ending_of_walkLinks (links : Nat) (here : Location) (parts : List Part)
    (walked : tree.walkLinks false links here parts = .ok (.existing ending)) :
    ending ∈ tree.linksFootprint links here parts ∧
      ∀ location ∈ tree.linksFootprint links here parts,
        location = ending ∨ (tree.lookup location).isSome := by
  induction links generalizing here parts with
  | zero => exact ending_of_walkParts (fun _ _ _ failed => by cases failed) here parts walked
  | succ links inductionHypothesis =>
      exact ending_of_walkParts (fun here target rest => inductionHypothesis _ _) here parts walked

theorem ending_of_locate (located : tree.locate here path = .ok ending) :
    ending ∈ tree.footprint here path ∧
      ∀ location ∈ tree.footprint here path,
        location = ending ∨ (tree.lookup location).isSome := by
  rw [locate_eq_ok_iff, walk_eq] at located
  rw [footprint]
  cases checked : checkPath path with
  | error fault =>
      rw [checked] at located
      cases located
  | ok fine =>
      rw [checked] at located
      exact ending_of_walkLinks _ _ _ located

/-- Everything in the footprint of a path that leads to something is there. -/
theorem isSome_of_find {node : Node} (found : tree.find here path = .ok node) :
    ∀ location ∈ tree.footprint here path, (tree.lookup location).isSome := by
  obtain ⟨ending, located, there⟩ := find_eq_ok_iff.mp found
  intro location mark
  rcases (ending_of_locate located).2 location mark with rfl | present
  · rw [there]
    rfl
  · exact present

end Success

section Comparison

variable {tree other : FileTree} {here : Location} {path : Bytes}

/-- Where two trees agree on the footprint of a path, it leads to the same thing in both. -/
theorem find_of_agree
    (agree : ∀ location ∈ tree.footprint here path,
      other.lookup location = tree.lookup location) :
    other.find here path = tree.find here path := by
  rw [find, find, locate_of_agree agree]
  cases located : tree.locate here path with
  | error fault => rfl
  | ok location =>
      have same := agree location (ending_of_locate located).1
      simp only [bind, Except.bind, same]

/-- A path is followed past some locations: none of them is looked up. -/
def Avoids (tree : FileTree) (here : Location) (path : Bytes) (forbidden : Location → Prop) :
    Prop :=
  ∀ location ∈ tree.footprint here path, ¬forbidden location

instance (tree : FileTree) (here : Location) (path : Bytes) (forbidden : Location → Prop)
    [DecidablePred forbidden] : Decidable (tree.Avoids here path forbidden) :=
  inferInstanceAs (Decidable (∀ location ∈ tree.footprint here path, ¬forbidden location))

/-- A change of locations that a path avoids does not change where it leads. -/
theorem Avoids.locate_eq {forbidden : Location → Prop} (avoids : tree.Avoids here path forbidden)
    (same : ∀ location, ¬forbidden location → other.lookup location = tree.lookup location) :
    other.locate here path = tree.locate here path :=
  locate_of_agree fun location mark => same location (avoids location mark)

theorem Avoids.find_eq {forbidden : Location → Prop} (avoids : tree.Avoids here path forbidden)
    (same : ∀ location, ¬forbidden location → other.lookup location = tree.lookup location) :
    other.find here path = tree.find here path :=
  find_of_agree fun location mark => same location (avoids location mark)

/-- A path leads to the same thing in a tree that has more. -/
theorem find_of_extends {node : Node}
    (extended : ∀ location node, tree.lookup location = some node →
      other.lookup location = some node)
    (found : tree.find here path = .ok node) : other.find here path = .ok node := by
  rw [find_of_agree, found]
  intro location mark
  obtain ⟨standing, present⟩ := Option.isSome_iff_exists.mp (isSome_of_find found location mark)
  rw [present]
  exact extended location standing present

end Comparison

end Occupancy.FileTree
