/-
Module: Occupancy.Decimal.Fixed
Purpose: Numbers with a fixed count of places behind the point.
Main exports: roundDiv, fixed
-/
import Occupancy.Decimal.Binary64

namespace Occupancy.Decimal

/-- The whole number nearest to a quotient; a half goes to the even neighbour. -/
def roundDiv (num den : Nat) : Nat :=
  let down := num / den
  let twice := 2 * (num % den)
  if twice < den then down
  else if den < twice then down + 1
  else if down % 2 = 0 then down else down + 1

/-- The whole number nearest to a double without its sign, taken so many times; a half goes to the
even neighbour. -/
def roundScaled (significand : Nat) (exponent : Int) (scale : Nat) : Nat :=
  match exponent with
  | .ofNat e => significand * Nat.pow 2 e * scale
  | .negSucc e => roundDiv (significand * scale) (Nat.pow 2 (e + 1))

/-- A number of hundredths with a point. -/
def pointed (hundredths : Nat) : List Char :=
  digits (hundredths / 100) ++ '.' :: padLeft 2 (digits (hundredths % 100))

/-- A double with two places behind the point: its exact value rounded, a half to the even
neighbour. A sign is kept even before zero. -/
def fixed (x : Float) : String :=
  match Binary64.ofFloat x with
  | .nan => "NaN"
  | .infinite negative => if negative then "-inf" else "inf"
  | .finite negative significand exponent _ =>
    let text := pointed (roundScaled significand exponent 100)
    String.ofList (if negative then '-' :: text else text)

end Occupancy.Decimal
