/-
Module: Occupancy.Unicode.Orbit
Purpose: Code points that differ in case only.
Main exports: orbits
-/
import Occupancy.Unicode.Folding
import Occupancy.Unicode.Table

namespace Occupancy.Unicode

/-- The members of a class, each so far from the one before it. -/
def members (start : Nat) : List Nat → List Nat
  | [] => []
  | distance :: rest => (start + distance) :: members (start + distance) rest

/-- The classes of code points that differ in case only, each in ascending order. -/
def orbits : List (List Nat) :=
  let (_, classes) := (words foldingText).foldl (fun (least, classes) word =>
    let orbit := members least word
    (orbit.headD 0, orbit :: classes)) (0, [])
  classes.reverse

end Occupancy.Unicode
