/-
Module: Occupancy.Proofs.BucketSums
Purpose: What the words of a bucket hold, told in exact numbers.
Main exports: toNat_saturatingAdd, toNat_foldl_saturatingAdd, Bucket.Takes, Bucket.record_eq_ite,
  Bucket.merge_eq_ite, Bucket.ofExact, Bucket.foldl_record_ofExact, Bucket.foldl_merge_ofExact
-/
import Mathlib
import Occupancy.Bucket

namespace Occupancy

/-!
A bucket adds in words and refuses what does not fit. Everything here moves such sums to natural
numbers: a saturating fold is the exact sum cut off once at the end, and a fold of records or merges
whose exact sums fit never refuses anything, so that it is the exact sum as well.
-/

/-- The greatest word. -/
def maxWord : Nat := UInt64.size - 1

theorem checkedAdd_of_lt {a b : UInt64} (fits : a.toNat + b.toNat < UInt64.size) :
    checkedAdd a b = some (a + b) := by
  rw [checkedAdd, if_pos fits]

theorem checkedAdd_of_le {a b : UInt64} (overflow : UInt64.size ≤ a.toNat + b.toNat) :
    checkedAdd a b = none := by
  rw [checkedAdd, if_neg (Nat.not_lt.mpr overflow)]

/-- Saturating addition is exact addition, cut off at the greatest word. -/
theorem toNat_saturatingAdd (a b : UInt64) :
    (saturatingAdd a b).toNat = min (a.toNat + b.toNat) maxWord := by
  rcases Nat.lt_or_ge (a.toNat + b.toNat) UInt64.size with fits | overflow
  · rw [saturatingAdd, checkedAdd_of_lt fits, Option.getD_some, UInt64.toNat_add,
      Nat.mod_eq_of_lt fits]
    exact (Nat.min_eq_left (Nat.le_sub_one_of_lt fits)).symm
  · rw [saturatingAdd, checkedAdd_of_le overflow, Option.getD_none]
    have cut : maxWord ≤ a.toNat + b.toNat := Nat.le_trans (Nat.sub_le _ _) overflow
    rw [Nat.min_eq_right cut]
    rfl

/-- Saturating in the middle of a sum is not undone by what follows, so that a saturating fold is
one cut of the exact sum. -/
theorem toNat_foldl_saturatingAdd {α : Type} (word : α → UInt64) (items : List α) (start : UInt64) :
    (items.foldl (fun sum item => saturatingAdd sum (word item)) start).toNat =
      min (start.toNat + (items.map fun item => (word item).toNat).sum) maxWord := by
  induction items generalizing start with
  | nil =>
      have bound : start.toNat ≤ maxWord := Nat.le_sub_one_of_lt start.toNat_lt
      simp [Nat.min_eq_left bound]
  | cons item items inductionHypothesis =>
      rw [List.foldl_cons, inductionHypothesis, toNat_saturatingAdd, List.map_cons, List.sum_cons]
      omega

namespace Bucket

/-- Both exact sums fit into words. -/
def Takes (b : Bucket) (total kernels : UInt64) : Prop :=
  b.total.toNat + total.toNat < UInt64.size ∧ b.kernels.toNat + kernels.toNat < UInt64.size

instance (b : Bucket) (total kernels : UInt64) : Decidable (b.Takes total kernels) :=
  inferInstanceAs (Decidable (_ ∧ _))

/-- Adding is all or nothing: both sums are taken over, or the addition is refused. -/
theorem add?_eq_ite (b : Bucket) (total kernels : UInt64) :
    b.add? total kernels =
      if b.Takes total kernels then some (ofSums (b.total + total) (b.kernels + kernels))
      else none := by
  by_cases totalFits : b.total.toNat + total.toNat < UInt64.size
  · by_cases kernelsFit : b.kernels.toNat + kernels.toNat < UInt64.size
    · rw [if_pos ⟨totalFits, kernelsFit⟩, add?, checkedAdd_of_lt totalFits,
        checkedAdd_of_lt kernelsFit]
      rfl
    · rw [if_neg fun takes => kernelsFit takes.2, add?, checkedAdd_of_lt totalFits,
        checkedAdd_of_le (Nat.not_lt.mp kernelsFit)]
      rfl
  · rw [if_neg fun takes => totalFits takes.1, add?, checkedAdd_of_le (Nat.not_lt.mp totalFits)]
    rfl

theorem record_eq_ite (b : Bucket) (value : UInt32) :
    b.record value =
      if b.Takes value.toUInt64 1 then ofSums (b.total + value.toUInt64) (b.kernels + 1)
      else b := by
  rw [record, record?, add?_eq_ite]
  split <;> rfl

theorem merge_eq_ite (b other : Bucket) :
    b.merge other =
      if b.Takes other.total other.kernels then
        ofSums (b.total + other.total) (b.kernels + other.kernels)
      else b := by
  rw [merge, merge?, add?_eq_ite]
  split <;> rfl

/-- The bucket of sums given as numbers. It says what it should only while both fit into words. -/
def ofExact (total kernels : Nat) : Bucket :=
  ofSums (UInt64.ofNat total) (UInt64.ofNat kernels)

theorem empty_eq_ofExact : empty = ofExact 0 0 := rfl

theorem toNat_total_ofExact {total : Nat} (kernels : Nat) (fits : total < UInt64.size) :
    (ofExact total kernels).total.toNat = total :=
  UInt64.toNat_ofNat_of_lt fits

theorem toNat_kernels_ofExact (total : Nat) {kernels : Nat} (fits : kernels < UInt64.size) :
    (ofExact total kernels).kernels.toNat = kernels :=
  UInt64.toNat_ofNat_of_lt fits

/-- Adding numbers that fit together gives the bucket of their sums. -/
theorem add?_ofExact {total kernels : Nat} {moreTotal moreKernels : UInt64}
    (totalFits : total + moreTotal.toNat < UInt64.size)
    (kernelsFit : kernels + moreKernels.toNat < UInt64.size) :
    (ofExact total kernels).add? moreTotal moreKernels =
      some (ofExact (total + moreTotal.toNat) (kernels + moreKernels.toNat)) := by
  have takes : (ofExact total kernels).Takes moreTotal moreKernels := by
    refine ⟨?_, ?_⟩
    · rwa [toNat_total_ofExact _ (by omega)]
    · rwa [toNat_kernels_ofExact _ (by omega)]
  rw [add?_eq_ite, if_pos takes]
  simp [ofExact, ofSums, UInt64.ofNat_add]

theorem record_ofExact {total kernels : Nat} {value : UInt32}
    (totalFits : total + value.toNat < UInt64.size) (kernelsFit : kernels + 1 < UInt64.size) :
    (ofExact total kernels).record value = ofExact (total + value.toNat) (kernels + 1) := by
  rw [record, record?, add?_ofExact (by simpa using totalFits) (by simpa using kernelsFit)]
  simp

theorem merge_ofExact {total kernels moreTotal moreKernels : Nat}
    (totalFits : total + moreTotal < UInt64.size)
    (kernelsFit : kernels + moreKernels < UInt64.size) :
    (ofExact total kernels).merge (ofExact moreTotal moreKernels) =
      ofExact (total + moreTotal) (kernels + moreKernels) := by
  have moreTotalEq : (ofExact moreTotal moreKernels).total.toNat = moreTotal :=
    toNat_total_ofExact _ (by omega)
  have moreKernelsEq : (ofExact moreTotal moreKernels).kernels.toNat = moreKernels :=
    toNat_kernels_ofExact _ (by omega)
  rw [merge, merge?, add?_ofExact (by rwa [moreTotalEq]) (by rwa [moreKernelsEq]), moreTotalEq,
    moreKernelsEq, Option.getD_some]

/-- Samples whose exact sums fit are all counted. The hypotheses speak of the end of the fold only:
what has been added before is never more than that. -/
theorem foldl_record_ofExact (values : List UInt32) {total kernels : Nat}
    (totalFits : total + (values.map UInt32.toNat).sum < UInt64.size)
    (kernelsFit : kernels + values.length < UInt64.size) :
    values.foldl record (ofExact total kernels) =
      ofExact (total + (values.map UInt32.toNat).sum) (kernels + values.length) := by
  induction values generalizing total kernels with
  | nil => rfl
  | cons value values inductionHypothesis =>
      simp only [List.map_cons, List.sum_cons, List.length_cons] at totalFits kernelsFit
      rw [List.foldl_cons, record_ofExact (by omega) (by omega),
        inductionHypothesis (by omega) (by omega)]
      simp only [List.map_cons, List.sum_cons, List.length_cons, Nat.add_assoc, Nat.add_comm 1]

/-- Buckets whose exact sums fit are all merged. -/
theorem foldl_merge_ofExact {α : Type} (part : α → Nat × Nat) (items : List α)
    {total kernels : Nat}
    (totalFits : total + (items.map fun item => (part item).1).sum < UInt64.size)
    (kernelsFit : kernels + (items.map fun item => (part item).2).sum < UInt64.size) :
    items.foldl (fun b item => b.merge (ofExact (part item).1 (part item).2))
        (ofExact total kernels) =
      ofExact (total + (items.map fun item => (part item).1).sum)
        (kernels + (items.map fun item => (part item).2).sum) := by
  induction items generalizing total kernels with
  | nil => rfl
  | cons item items inductionHypothesis =>
      simp only [List.map_cons, List.sum_cons] at totalFits kernelsFit
      rw [List.foldl_cons, merge_ofExact (by omega) (by omega),
        inductionHypothesis (by omega) (by omega)]
      simp only [List.map_cons, List.sum_cons, Nat.add_assoc]

end Bucket
end Occupancy
