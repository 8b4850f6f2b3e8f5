/-
Module: Occupancy.Decimal.Shortest
Purpose: The fewest decimal digits that tell a double from all others.
Main exports: Numeral, shortest
-/
import Occupancy.Decimal.Binary64

namespace Occupancy.Decimal

/-!
The decimals that read back as a double are those between the middles to its two neighbours, the
middles included when its significand is even. A grid of decimals with so many digits has a point
among them exactly if it has one next to the double itself, so only the two grid points around it
need to be tried. Everything is done in whole numbers over a common denominator.
-/

/-- A positive decimal: `digits * 10 ^ exponent`. -/
structure Numeral where
  digits : Nat
  exponent : Int
deriving DecidableEq, Repr

/-- A positive double and the two middles, as numerators over one denominator. -/
structure Span where
  value : Nat
  low : Nat
  high : Nat
  den : Nat
  closed : Bool
deriving DecidableEq, Repr

/-- The span of a double. Its distance to the double below is half as great if it is a power of
two. -/
def Span.of (significand : Nat) (exponent : Int) (atPower : Bool) : Span :=
  let low := if atPower then 4 * significand - 1 else 4 * significand - 2
  let closed := significand % 2 = 0
  match exponent - 2 with
  | .ofNat e =>
    let power := Nat.pow 2 e
    ⟨4 * significand * power, low * power, (4 * significand + 2) * power, 1, closed⟩
  | .negSucc e => ⟨4 * significand, low, 4 * significand + 2, Nat.pow 2 (e + 1), closed⟩

/-- The numerator and denominator of a power of ten. -/
def powerOfTen : Int → Nat × Nat
  | .ofNat e => (Nat.pow 10 e, 1)
  | .negSucc e => (1, Nat.pow 10 (e + 1))

/-- Whether a decimal lies in the span, so that it reads back as the double. -/
def Span.holds (s : Span) (d : Numeral) : Bool :=
  let (num, den) := powerOfTen d.exponent
  let x := d.digits * num * s.den
  if s.closed then s.low * den ≤ x && x ≤ s.high * den else s.low * den < x && x < s.high * den

/-- How far a decimal is from the double, over a denominator that depends on its exponent only. -/
def Span.distance (s : Span) (d : Numeral) : Nat :=
  let (num, den) := powerOfTen d.exponent
  let x := d.digits * num * s.den
  let v := s.value * den
  (x - v) + (v - x)

/-- The grid point below the double or at it. -/
def Span.floor (s : Span) (exponent : Int) : Numeral :=
  let (num, den) := powerOfTen exponent
  ⟨s.value * den / (s.den * num), exponent⟩

/-- The better of the two grid points around the double, if one reads back: the nearer, and of two
equally near the one with an even last digit. -/
def Span.nearest? (s : Span) (exponent : Int) : Option Numeral :=
  let down := s.floor exponent
  let up := { down with digits := down.digits + 1 }
  match s.holds down, s.holds up with
  | true, true =>
    if s.distance down < s.distance up then some down
    else if s.distance up < s.distance down then some up
    else if down.digits % 2 = 0 then some down else some up
  | true, false => some down
  | false, true => some up
  | false, false => none

/-- How many powers of ten below the double the smallest one is tried. -/
def deepest : Nat := 340

/-- The exponent of the first digit of a double. -/
def Span.order (s : Span) : Int :=
  (digits (s.value * Nat.pow 10 deepest / s.den)).length - 1 - (deepest : Int)

/-- Try grids with one more digit each, so many times. -/
def Span.search (s : Span) : Nat → Int → Option Numeral
  | 0, _ => none
  | n + 1, exponent => s.nearest? exponent <|> s.search n (exponent - 1)

/-- Move zeros at the end of the digits into the exponent, so many at most. -/
def dropZeros : Nat → Numeral → Numeral
  | 0, d => d
  | n + 1, d => if d.digits % 10 = 0 then dropZeros n ⟨d.digits / 10, d.exponent + 1⟩ else d

/-- The decimal with the fewest digits that reads back as a positive double, and of those the one
nearest to it. Seventeen digits are always enough. -/
def shortest (significand : Nat) (exponent : Int) (atPower : Bool) : Numeral :=
  let s := Span.of significand exponent atPower
  dropZeros 17 ((s.search 17 s.order).getD ⟨0, 0⟩)

end Occupancy.Decimal
