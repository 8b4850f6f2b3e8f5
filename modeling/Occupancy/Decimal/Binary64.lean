/-
Module: Occupancy.Decimal.Binary64
Purpose: Doubles as exact numbers.
Main exports: Binary64, Binary64.ofFloat
-/

namespace Occupancy.Decimal

/-- A double: a whole number of halvings or doublings of a whole number, an infinity, or none. The
flag of a finite one tells whether the doubles below lie closer together than those above. -/
inductive Binary64 where
  | finite (negative : Bool) (significand : Nat) (exponent : Int) (atPower : Bool)
  | infinite (negative : Bool)
  | nan
deriving DecidableEq, Repr

/-- Take the bits of a double apart. The value of a finite one is `significand * 2 ^ exponent`; below
the normal numbers the exponent stays and the leading bit is missing. -/
def Binary64.ofBits (bits : UInt64) : Binary64 :=
  let n := bits.toNat
  let negative : Bool := n / 0x8000000000000000 = 1
  let field : Nat := n / 0x10000000000000 % 0x800
  let fraction : Nat := n % 0x10000000000000
  if field = 2047 then if fraction = 0 then .infinite negative else .nan
  else if field = 0 then .finite negative fraction (-1074) false
  else .finite negative (0x10000000000000 + fraction) (field - 1075) (fraction = 0 && field != 1)

/-- Take a double apart. -/
def Binary64.ofFloat (x : Float) : Binary64 := .ofBits x.toBits

/-- The digits of a number in base ten. -/
def digits (n : Nat) : List Char := Nat.toDigits 10 n

/-- Zeros in front of digits, up to a width. -/
def padLeft (width : Nat) (digits : List Char) : List Char :=
  List.replicate (width - digits.length) '0' ++ digits

end Occupancy.Decimal
