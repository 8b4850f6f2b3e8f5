/-
Module: Occupancy.Pattern.CharSet
Purpose: Sets of characters.
Main exports: CharSet, CharSet.contains, CharSet.ofRanges, CharSet.union, CharSet.complement
-/
import Occupancy.Unicode.Orbit

namespace Occupancy.Pattern

/-!
A set is a list of inclusive ranges of code points, in ascending order and with a gap between each
two. A look-up reads from the front and stops at the first range that begins too late, so characters
of low code points, by far the most frequent, are decided at once.
-/

/-- A set of characters. -/
structure CharSet where
  ranges : List (Nat × Nat)
deriving DecidableEq, Repr, Inhabited

namespace CharSet

/-- Look a code point up in ascending ranges. -/
def holds (n : Nat) : List (Nat × Nat) → Bool
  | [] => false
  | (low, high) :: rest => if n < low then false else n ≤ high || holds n rest

/-- Membership. -/
def contains (s : CharSet) (c : Char) : Bool := holds c.toNat s.ranges

/-- The set of one character. -/
def single (c : Char) : CharSet := ⟨[(c.toNat, c.toNat)]⟩

/-- Join ranges, sorted by their starts, that overlap or touch. The first argument is the range being
built; the result is backwards. -/
def joinRanges (current : Nat × Nat) (done : List (Nat × Nat)) :
    List (Nat × Nat) → List (Nat × Nat)
  | [] => current :: done
  | (low, high) :: rest =>
    if low ≤ current.2 + 1 then joinRanges (current.1, max current.2 high) done rest
    else joinRanges (low, high) (current :: done) rest

/-- The set of all characters in the ranges, which may come in any order. -/
def ofRanges (ranges : List (Nat × Nat)) : CharSet :=
  match ranges.mergeSort fun a b => decide (a.1 ≤ b.1) with
  | [] => ⟨[]⟩
  | first :: rest => ⟨(joinRanges first [] rest).reverse⟩

/-- Ranges between the given ones, from a starting point up to the last code point; backwards. -/
def betweenRanges (start : Nat) (done : List (Nat × Nat)) : List (Nat × Nat) → List (Nat × Nat)
  | [] => if start ≤ 0x10FFFF then (start, 0x10FFFF) :: done else done
  | (low, high) :: rest =>
    betweenRanges (high + 1) (if start < low then (start, low - 1) :: done else done) rest

/-- All other characters. -/
def complement (s : CharSet) : CharSet :=
  ⟨(betweenRanges 0 [] s.ranges).reverse⟩

/-- Characters of either set. -/
def union (a b : CharSet) : CharSet := ofRanges (a.ranges ++ b.ranges)

/-- Characters of both sets. -/
def inter (a b : CharSet) : CharSet := (a.complement.union b.complement).complement

/-- Characters of the first set only. -/
def difference (a b : CharSet) : CharSet := a.inter b.complement

/-- Characters of exactly one set. -/
def symmetricDifference (a b : CharSet) : CharSet := (a.union b).difference (a.inter b)

/-- Whether all members are ASCII. -/
def isAscii (s : CharSet) : Bool := s.ranges.all (·.2 < 0x80)

/-- The set with everything that differs from a member in case only. -/
def closeUnderCase (s : CharSet) : CharSet :=
  let added := Unicode.orbits.filter fun orbit => orbit.any (holds · s.ranges)
  if added.isEmpty then s else ofRanges (s.ranges ++ added.flatten.map fun n => (n, n))

/-- The set with the other case of every ASCII letter in it. -/
def closeUnderAsciiCase (s : CharSet) : CharSet :=
  let added := (List.range 26).filter fun i => holds (0x41 + i) s.ranges || holds (0x61 + i) s.ranges
  ofRanges (s.ranges ++ added.flatMap fun i => [(0x41 + i, 0x41 + i), (0x61 + i, 0x61 + i)])

end CharSet
end Occupancy.Pattern
