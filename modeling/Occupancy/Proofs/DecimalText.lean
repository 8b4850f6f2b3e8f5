/-
Module: Occupancy.Proofs.DecimalText
Purpose: Numbers read back from their digits.
Main exports: foldl_eq_ofDigitChars, ofDigitChars_digits, ofDigitChars_padLeft, length_padLeft,
  ofDigitChars_lt, head?_digits_ne_zero
-/
import Mathlib
import Occupancy.Decimal.Binary64

namespace Occupancy.Decimal

/-!
All numbers of a report are runs of decimal digits, whatever reads them: naturals, the parts of a
double, and the fields of an instant. Their value is `Nat.ofDigitChars 10`, and zeros in front of
the digits do not change it.
-/

/-- The value that the readers build up is that of the digits. -/
theorem foldl_eq_ofDigitChars (text : List Char) (n : Nat) :
    text.foldl (fun n d => n * 10 + (d.toNat - 0x30)) n = Nat.ofDigitChars 10 text n := by
  rw [Nat.ofDigitChars_eq_foldl]
  simp only [Nat.mul_comm]
  rfl

/-- More digits only make a number greater. -/
theorem le_ofDigitChars (text : List Char) (n : Nat) : n ≤ Nat.ofDigitChars 10 text n := by
  rw [Nat.ofDigitChars_eq_ofDigitChars_zero]
  calc n ≤ 10 ^ text.length * n := Nat.le_mul_of_pos_left n (Nat.pow_pos (by decide))
    _ ≤ _ := Nat.le_add_right _ _

/-- The value of a digit is below ten. -/
theorem toNat_sub_lt_ten {c : Char} (digit : c.isDigit) : c.toNat - 48 < 10 := by
  have bounds := Char.isDigit_iff_toNat.mp digit
  simp only [Char.reduceToNat] at bounds
  omega

/-- Digits make a number with at most as many digits. -/
theorem ofDigitChars_lt {text : List Char} (digits : ∀ c ∈ text, c.isDigit) :
    Nat.ofDigitChars 10 text 0 < 10 ^ text.length := by
  induction text with
  | nil => simp
  | cons c text inductionHypothesis =>
    have rest := inductionHypothesis fun d d_mem => digits d (List.mem_cons_of_mem c d_mem)
    have first := toNat_sub_lt_ten (digits c List.mem_cons_self)
    rw [Nat.ofDigitChars_cons, Nat.ofDigitChars_eq_ofDigitChars_zero, List.length_cons,
      Nat.pow_succ]
    simp only [Char.reduceToNat, Nat.mul_zero, Nat.zero_add]
    nlinarith

/-- The characters of a number are digits. -/
theorem isDigit_of_mem_digits {n : Nat} {c : Char} (c_mem : c ∈ digits n) : c.isDigit :=
  Nat.isDigit_of_mem_toDigits (by decide) (by decide) c_mem

/-- A number has a digit. -/
theorem digits_ne_nil (n : Nat) : digits n ≠ [] := Nat.toDigits_ne_nil

/-- The digits of a number make that number. -/
theorem ofDigitChars_digits (n : Nat) : Nat.ofDigitChars 10 (digits n) 0 = n :=
  Nat.ofDigitChars_ten_toDigits

/-- How many digits a number has at most. -/
theorem length_digits_le_iff {n width : Nat} (positive : 0 < width) :
    (digits n).length ≤ width ↔ n < 10 ^ width :=
  Nat.length_toDigits_le_iff (by decide) positive

/-- The first digit of a number is zero for zero only. -/
theorem head?_digits_ne_zero {n : Nat} (positive : 0 < n) : (digits n).head? ≠ some '0' := by
  intro zero
  rcases List.exists_cons_of_ne_nil (digits_ne_nil n) with ⟨first, rest, split⟩
  rw [split, List.head?_cons, Option.some.injEq] at zero
  subst zero
  -- the number would be that of one digit less
  have digit : ∀ c ∈ rest, c.isDigit := fun c c_mem =>
    isDigit_of_mem_digits (n := n) (by rw [split]; exact List.mem_cons_of_mem '0' c_mem)
  have value : Nat.ofDigitChars 10 rest 0 = n := by
    rw [← ofDigitChars_digits n, split, Nat.ofDigitChars_cons]
    rfl
  have short : n < 10 ^ rest.length := value ▸ ofDigitChars_lt digit
  rcases Nat.eq_zero_or_pos rest.length with empty | more
  · rw [empty] at short
    omega
  · have length := (length_digits_le_iff more).mpr short
    rw [split, List.length_cons] at length
    omega

/-- Padded digits are digits. -/
theorem isDigit_of_mem_padLeft {width n : Nat} {c : Char} (c_mem : c ∈ padLeft width (digits n)) :
    c.isDigit := by
  rcases List.mem_append.mp c_mem with zero | digit
  · rw [List.eq_of_mem_replicate zero]
    decide
  · exact isDigit_of_mem_digits digit

/-- Padding does not change a number. -/
theorem ofDigitChars_padLeft (width n : Nat) :
    Nat.ofDigitChars 10 (padLeft width (digits n)) 0 = n := by
  rw [padLeft, Nat.ofDigitChars_append, Nat.ofDigitChars_replicate_zero, Nat.mul_zero,
    ofDigitChars_digits]

/-- Padded digits are as many as the width, if they are not more. -/
theorem length_padLeft {width n : Nat} (positive : 0 < width) (fits : n < 10 ^ width) :
    (padLeft width (digits n)).length = width := by
  have short := (length_digits_le_iff positive).mpr fits
  rw [padLeft, List.length_append, List.length_replicate]
  omega

/-- Padded digits are not empty. -/
theorem padLeft_ne_nil (width n : Nat) : padLeft width (digits n) ≠ [] :=
  List.append_ne_nil_of_right_ne_nil _ (digits_ne_nil n)

end Occupancy.Decimal
