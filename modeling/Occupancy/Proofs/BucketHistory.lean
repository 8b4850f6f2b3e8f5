/-
Module: Occupancy.Proofs.BucketHistory
Purpose: What a bucket holds behind any sequence of samples and buckets added to it.
Main exports: Addition, Turn, Bucket.turns, Bucket.addAll, Turn.AllOrNothing, Bucket.Averaged,
  Bucket.SameSums, Addition.result?_eq_ite, additions_allOrNothing
-/
import Occupancy.Proofs.BucketSums

namespace Occupancy

/-!
An addition brings two numbers, one for each sum, and either sum can be the one that has no room. One
equation says all that an addition can do (`Addition.result?_eq_ite`): with room for both numbers the
bucket of the exact sums is made anew, its average with it, and otherwise there is no new bucket. What
is said of single turns is read off this equation, and what is said of a whole history follows from
its turns by induction.

The average of a bucket may be anything at first. It has no say in the equation, so it is lost at the
first addition that is accepted, and from then on it is the quotient of the sums.
-/

/-- One addition to a bucket: a sample, another bucket, or the bucket's own sums once more. -/
inductive Addition where
  | sample (value : UInt32)
  | other (bucket : Bucket)
  | itself
deriving Repr

namespace Addition

/-- The bucket that an addition makes, if it is accepted. -/
def result? (b : Bucket) : Addition → Option Bucket
  | sample value => b.record? value
  | other bucket => b.merge? bucket
  | itself => b.merge? b

/-- The bucket behind an addition, accepted or not. -/
def result (b : Bucket) : Addition → Bucket
  | sample value => b.record value
  | other bucket => b.merge bucket
  | itself => b.merge b

/-- What an addition brings to the total. -/
def total (b : Bucket) : Addition → Nat
  | sample value => value.toNat
  | other bucket => bucket.total.toNat
  | itself => b.total.toNat

/-- What an addition brings to the number of kernels. -/
def kernels (b : Bucket) : Addition → Nat
  | sample _ => 1
  | other bucket => bucket.kernels.toNat
  | itself => b.kernels.toNat

end Addition

/-- One addition in the history of a bucket. -/
structure Turn where
  before : Bucket
  addition : Addition
  accepted : Bool
  after : Bucket

namespace Turn

/-- What the turn brings to the total, if it is accepted. -/
def total (turn : Turn) : Nat := turn.addition.total turn.before

/-- What the turn brings to the number of kernels, if it is accepted. -/
def kernels (turn : Turn) : Nat := turn.addition.kernels turn.before

/-- A turn is accepted just when both exact sums fit into words. Then the bucket has both of them,
and otherwise it is left as it was, its average included. -/
structure AllOrNothing (turn : Turn) : Prop where
  accepted_iff : turn.accepted = true ↔
    turn.before.total.toNat + turn.total ≤ 2 ^ 64 - 1 ∧
      turn.before.kernels.toNat + turn.kernels ≤ 2 ^ 64 - 1
  taken : turn.accepted = true →
    turn.after.total.toNat = turn.before.total.toNat + turn.total ∧
      turn.after.kernels.toNat = turn.before.kernels.toNat + turn.kernels
  refused : turn.accepted = false → turn.after = turn.before

end Turn

namespace Bucket

/-- The turn of one addition. -/
def turn (b : Bucket) (addition : Addition) : Turn :=
  ⟨b, addition, (addition.result? b).isSome, addition.result b⟩

/-- The turns that a bucket takes through some additions. -/
def turns (b : Bucket) : List Addition → List Turn
  | [] => []
  | addition :: additions => b.turn addition :: (addition.result b).turns additions

/-- The bucket behind some additions. -/
def addAll (b : Bucket) (additions : List Addition) : Bucket :=
  additions.foldl Addition.result b

/-- The average that is kept fits the sums. -/
def Averaged (b : Bucket) : Prop :=
  b.average = if b.kernels = 0 then 0.0 else b.total.toFloat / b.kernels.toFloat

/-- Two buckets differ in their averages at the most. -/
def SameSums (a b : Bucket) : Prop := a.total = b.total ∧ a.kernels = b.kernels

theorem averaged_ofSums (total kernels : UInt64) : (ofSums total kernels).Averaged := by
  unfold Averaged ofSums Occupancy.average
  dsimp only
  split <;> rfl

/-- The sums leave no choice where the averages fit. -/
theorem SameSums.eq_of_averaged {a b : Bucket} (same : a.SameSums b) (left : a.Averaged)
    (right : b.Averaged) : a = b := by
  obtain ⟨total, kernels, average⟩ := a
  obtain ⟨total', kernels', average'⟩ := b
  obtain ⟨rfl, rfl⟩ := same
  have averages : average = average' := left.trans right.symm
  rw [averages]

/-- An addition told in exact numbers. -/
theorem add?_eq_ofExact (b : Bucket) (total kernels : UInt64) :
    b.add? total kernels =
      if b.total.toNat + total.toNat < UInt64.size ∧
          b.kernels.toNat + kernels.toNat < UInt64.size then
        some (ofExact (b.total.toNat + total.toNat) (b.kernels.toNat + kernels.toNat))
      else none := by
  have sums : ofSums (b.total + total) (b.kernels + kernels) =
      ofExact (b.total.toNat + total.toNat) (b.kernels.toNat + kernels.toNat) := by
    simp [ofExact, UInt64.ofNat_add]
  rw [add?_eq_ite, sums]
  rfl

/-- Merging two buckets either way is the same. -/
theorem merge?_comm (a b : Bucket) : a.merge? b = b.merge? a := by
  rw [merge?, merge?, add?_eq_ofExact, add?_eq_ofExact, Nat.add_comm b.total.toNat,
    Nat.add_comm b.kernels.toNat]

end Bucket

namespace Addition

/-- All that an addition can do. -/
theorem result?_eq_ite (b : Bucket) (addition : Addition) :
    addition.result? b =
      if b.total.toNat + addition.total b < UInt64.size ∧
          b.kernels.toNat + addition.kernels b < UInt64.size then
        some (.ofExact (b.total.toNat + addition.total b) (b.kernels.toNat + addition.kernels b))
      else none := by
  cases addition with
  | sample value =>
      have made := b.add?_eq_ofExact value.toUInt64 1
      rwa [UInt32.toNat_toUInt64, UInt64.toNat_one] at made
  | other bucket => exact b.add?_eq_ofExact bucket.total bucket.kernels
  | itself => exact b.add?_eq_ofExact b.total b.kernels

theorem result_eq_getD (b : Bucket) (addition : Addition) :
    addition.result b = (addition.result? b).getD b := by
  cases addition <;> rfl

/-- Two additions that bring the same numbers; the averages of merged buckets may differ. -/
inductive Alike : Addition → Addition → Prop where
  | sample (value : UInt32) : Alike (sample value) (sample value)
  | other {bucket bucket' : Bucket} (same : bucket.SameSums bucket') :
      Alike (other bucket) (other bucket')
  | itself : Alike itself itself

/-- The averages of a bucket and of what is added to it have no say in the bucket that is made. -/
theorem Alike.result? {addition addition' : Addition} (alike : addition.Alike addition')
    {b b' : Bucket} (same : b.SameSums b') : addition.result? b = addition'.result? b' := by
  obtain ⟨totalEq, kernelsEq⟩ := same
  have brought : addition.total b = addition'.total b' ∧
      addition.kernels b = addition'.kernels b' := by
    cases alike with
    | sample value => exact ⟨rfl, rfl⟩
    | other same => exact ⟨congrArg UInt64.toNat same.1, congrArg UInt64.toNat same.2⟩
    | itself => exact ⟨congrArg UInt64.toNat totalEq, congrArg UInt64.toNat kernelsEq⟩
  rw [result?_eq_ite, result?_eq_ite, totalEq, kernelsEq, brought.1, brought.2]

end Addition

namespace Bucket

/-- What can become of an addition: it is accepted, fits and makes the bucket of the exact sums, or
it is refused, does not fit and leaves the bucket. -/
theorem turn_cases (b : Bucket) (addition : Addition) :
    ((b.turn addition).accepted = true ∧
      b.total.toNat + addition.total b < UInt64.size ∧
      b.kernels.toNat + addition.kernels b < UInt64.size ∧
      addition.result b =
        ofExact (b.total.toNat + addition.total b) (b.kernels.toNat + addition.kernels b)) ∨
    ((b.turn addition).accepted = false ∧
      ¬(b.total.toNat + addition.total b < UInt64.size ∧
        b.kernels.toNat + addition.kernels b < UInt64.size) ∧
      addition.result b = b) := by
  rw [addition.result_eq_getD b]
  unfold turn
  dsimp only
  rw [addition.result?_eq_ite b]
  split
  · next fits => exact .inl ⟨rfl, fits.1, fits.2, rfl⟩
  · next overflow => exact .inr ⟨rfl, overflow, rfl⟩

theorem turn_allOrNothing (b : Bucket) (addition : Addition) :
    (b.turn addition).AllOrNothing := by
  have limit (n : Nat) : n ≤ 2 ^ 64 - 1 ↔ n < UInt64.size := Nat.le_sub_one_iff_lt (by decide)
  rcases b.turn_cases addition with ⟨accepted, total, kernels, made⟩ | ⟨refused, overflow, left⟩
  · constructor
    · rw [limit, limit]
      exact iff_of_true accepted ⟨total, kernels⟩
    · intro _
      have after : (b.turn addition).after =
        ofExact (b.total.toNat + addition.total b) (b.kernels.toNat + addition.kernels b) := made
      rw [after]
      exact ⟨toNat_total_ofExact _ total, toNat_kernels_ofExact _ kernels⟩
    · intro refused
      rw [accepted] at refused
      cases refused
  · constructor
    · rw [limit, limit, refused]
      exact iff_of_false Bool.false_ne_true overflow
    · intro accepted
      rw [refused] at accepted
      cases accepted
    · intro _
      exact left

/-! ### Histories -/

theorem turns_allOrNothing (start : Bucket) (additions : List Addition) :
    ∀ turn ∈ start.turns additions, turn.AllOrNothing := by
  induction additions generalizing start with
  | nil =>
      intro turn member
      cases member
  | cons addition additions inductionHypothesis =>
      intro turn member
      rcases List.mem_cons.mp member with rfl | later
      · exact start.turn_allOrNothing addition
      · exact inductionHypothesis _ turn later

/-- A sum of a bucket behind a history is the one at its start and what the accepted turns brought. -/
theorem measure_addAll (measure : Bucket → Nat) (brought : Turn → Nat)
    (step : ∀ b addition, measure (addition.result b) =
      measure b + if (b.turn addition).accepted then brought (b.turn addition) else 0)
    (start : Bucket) (additions : List Addition) :
    measure (start.addAll additions) =
      measure start + (((start.turns additions).filter (·.accepted)).map brought).sum := by
  induction additions generalizing start with
  | nil => rfl
  | cons addition additions inductionHypothesis =>
      have rest := inductionHypothesis (addition.result start)
      rw [step] at rest
      rw [addAll, List.foldl_cons]
      rw [addAll] at rest
      rw [rest, turns, List.filter_cons]
      split
      · rw [List.map_cons, List.sum_cons, Nat.add_assoc]
      · rw [Nat.add_zero]

theorem toNat_total_addAll (start : Bucket) (additions : List Addition) :
    (start.addAll additions).total.toNat =
      start.total.toNat + (((start.turns additions).filter (·.accepted)).map Turn.total).sum := by
  apply measure_addAll (·.total.toNat)
  intro b addition
  cases accepted : (b.turn addition).accepted with
  | true => exact ((b.turn_allOrNothing addition).taken accepted).1
  | false => exact congrArg (·.total.toNat) ((b.turn_allOrNothing addition).refused accepted)

theorem toNat_kernels_addAll (start : Bucket) (additions : List Addition) :
    (start.addAll additions).kernels.toNat =
      start.kernels.toNat + (((start.turns additions).filter (·.accepted)).map Turn.kernels).sum := by
  apply measure_addAll (·.kernels.toNat)
  intro b addition
  cases accepted : (b.turn addition).accepted with
  | true => exact ((b.turn_allOrNothing addition).taken accepted).2
  | false => exact congrArg (·.kernels.toNat) ((b.turn_allOrNothing addition).refused accepted)

/-- One accepted turn is enough for the average to fit, and it fits from then on. -/
theorem averaged_addAll (start : Bucket) (additions : List Addition)
    (some : start.Averaged ∨ ∃ turn ∈ start.turns additions, turn.accepted = true) :
    (start.addAll additions).Averaged := by
  induction additions generalizing start with
  | nil =>
      rcases some with averaged | ⟨turn, member, -⟩
      · exact averaged
      · cases member
  | cons addition additions inductionHypothesis =>
      apply inductionHypothesis
      rcases start.turn_cases addition with ⟨-, -, -, made⟩ | ⟨refused, -, left⟩
      · rw [made]
        exact .inl (averaged_ofSums _ _)
      · rw [left]
        rcases some with averaged | ⟨turn, member, accepted⟩
        · exact .inl averaged
        · rcases List.mem_cons.mp member with rfl | later
          · rw [refused] at accepted
            cases accepted
          · rw [left] at later
            exact .inr ⟨turn, later, accepted⟩

/-- Histories that differ in averages only are accepted and refused alike and end in the same
sums. -/
theorem SameSums.addAll {start other : Bucket} (same : start.SameSums other)
    {additions others : List Addition} (alike : List.Forall₂ Addition.Alike additions others) :
    (start.turns additions).map (·.accepted) = (other.turns others).map (·.accepted) ∧
      (start.addAll additions).SameSums (other.addAll others) := by
  induction alike generalizing start other with
  | nil => exact ⟨rfl, same⟩
  | @cons addition addition' additions others head _ inductionHypothesis =>
      have results := head.result? same
      have next : (addition.result start).SameSums (addition'.result other) := by
        rw [addition.result_eq_getD, addition'.result_eq_getD, results]
        cases addition'.result? other with
        | none => exact same
        | some made => exact ⟨rfl, rfl⟩
      obtain ⟨answers, sums⟩ := inductionHypothesis next
      refine ⟨?_, sums⟩
      rw [turns, turns, List.map_cons, List.map_cons, answers]
      have answer : (start.turn addition).accepted = (other.turn addition').accepted :=
        congrArg Option.isSome results
      rw [answer]

end Bucket

/-- Behind any sequence of samples, buckets and the bucket itself added to any bucket: each addition
is all or nothing, the sums are exactly those at the start and what the accepted additions brought,
and if any was accepted the average is the quotient of the sums. Neither the average at the start nor
that of a merged bucket has a say in what is accepted, in the sums, or in anything once an addition
was accepted. Merging two buckets either way is the same. -/
theorem additions_allOrNothing (start : Bucket) (additions : List Addition) :
    (∀ turn ∈ start.turns additions, turn.AllOrNothing) ∧
    (start.addAll additions).total.toNat =
      start.total.toNat + (((start.turns additions).filter (·.accepted)).map Turn.total).sum ∧
    (start.addAll additions).kernels.toNat =
      start.kernels.toNat + (((start.turns additions).filter (·.accepted)).map Turn.kernels).sum ∧
    ((∃ turn ∈ start.turns additions, turn.accepted = true) →
      (start.addAll additions).Averaged) ∧
    (∀ other others, start.SameSums other → List.Forall₂ Addition.Alike additions others →
      (start.turns additions).map (·.accepted) = (other.turns others).map (·.accepted) ∧
      (start.addAll additions).SameSums (other.addAll others) ∧
      ((∃ turn ∈ start.turns additions, turn.accepted = true) →
        start.addAll additions = other.addAll others)) ∧
    (∀ a b : Bucket, a.merge? b = b.merge? a) := by
  refine ⟨start.turns_allOrNothing additions, start.toNat_total_addAll additions,
    start.toNat_kernels_addAll additions, fun some => start.averaged_addAll additions (.inr some),
    ?_, Bucket.merge?_comm⟩
  intro other others same alike
  obtain ⟨answers, sums⟩ := same.addAll alike
  refine ⟨answers, sums, ?_⟩
  rintro ⟨turn, member, accepted⟩
  have flag : true ∈ (other.turns others).map (·.accepted) := by
    rw [← answers, ← accepted]
    exact List.mem_map_of_mem member
  obtain ⟨turn', member', accepted'⟩ := List.mem_map.mp flag
  apply sums.eq_of_averaged
  · exact start.averaged_addAll additions (.inr ⟨turn, member, accepted⟩)
  · exact other.averaged_addAll others (.inr ⟨turn', member', accepted'⟩)

/-- A sample that does not fit is refused, and one that fits is still taken behind it. -/
example :
    let start : Bucket := ⟨18446744073709551614, 0, 0.0⟩
    let additions : List Addition := [.sample 5, .sample 1, .itself]
    (start.turns additions).map (·.accepted) = [false, true, false] ∧
      (start.addAll additions).total = 18446744073709551615 ∧
      (start.addAll additions).kernels = 1 := by
  decide

end Occupancy
