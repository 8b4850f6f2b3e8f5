/-
Module: Occupancy.Bucket
Purpose: Totals of one (run, benchmark) pair, which refuse rather than wrap.
Main exports: average, Bucket, Bucket.record?, Bucket.merge?
-/

namespace Occupancy

/-- `total / count` as a quotient of doubles, and nothing for an empty set. -/
def average (total count : UInt64) : Option Float :=
  if count = 0 then none else some (total.toFloat / count.toFloat)

/-- The sum of two words, unless it needs a 65th bit. -/
def checkedAdd (a b : UInt64) : Option UInt64 :=
  if a.toNat + b.toNat < UInt64.size then some (a + b) else none

/-- The sum of two words, or the greatest word when the sum is past it. -/
def saturatingAdd (a b : UInt64) : UInt64 :=
  (checkedAdd a b).getD (UInt64.ofNat (UInt64.size - 1))

/-- Occupancy totals: the sum of the sample values, their number, and the average kept beside
them. -/
structure Bucket where
  total : UInt64
  kernels : UInt64
  average : Float
deriving Repr

namespace Bucket

/-- No samples: the average of nothing is kept as zero. -/
def empty : Bucket := ⟨0, 0, 0.0⟩

instance : Inhabited Bucket := ⟨empty⟩

/-- The bucket with the given sums, its average made to fit them. -/
def ofSums (total kernels : UInt64) : Bucket :=
  ⟨total, kernels, (Occupancy.average total kernels).getD 0.0⟩

/-- Add to both sums, or refuse when either would overflow. -/
def add? (b : Bucket) (total kernels : UInt64) : Option Bucket := do
  let total ← checkedAdd b.total total
  let kernels ← checkedAdd b.kernels kernels
  return ofSums total kernels

/-- Count one more sample. -/
def record? (b : Bucket) (value : UInt32) : Option Bucket :=
  b.add? value.toUInt64 1

/-- Add another bucket's sums; its average has no say. -/
def merge? (b other : Bucket) : Option Bucket :=
  b.add? other.total other.kernels

/-- Count one more sample, or leave the bucket as it is when that would overflow. -/
def record (b : Bucket) (value : UInt32) : Bucket :=
  (b.record? value).getD b

/-- Add another bucket, or leave this one as it is when that would overflow. -/
def merge (b other : Bucket) : Bucket :=
  (b.merge? other).getD b

end Bucket
end Occupancy
