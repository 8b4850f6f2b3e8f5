/-
Module: Occupancy.Proofs.DoubleText
Purpose: What the number reader makes of the text of a double, and when that is the double again.
Main exports: printed, scaled, written, reread, IsAverage, isAverage_div, reads_float, reread_eq
-/
import Mathlib
import Occupancy.Proofs.JsonDocument
import Occupancy.Proofs.ShortestDigits

namespace Occupancy.Json

open Decimal

/-!
The reader takes the digits of a double without the point as one whole number, makes a double of it
and multiplies that with a power of ten or divides it by one. Each of these steps rounds. Only if
the digits make a number of 53 bits and the power of ten is a double, the last step is the only one
that does, and then it gives the double that the digits stand for.
-/

/-! ### The text of a decimal -/

/-- The digits of the text of a decimal without its point, and the power of ten that they are taken
times. A whole number that is written without an exponent has a zero behind its point. -/
def printed (d : Numeral) : Nat × Int :=
  if 0 ≤ d.exponent ∧ d.exponent + (digits d.digits).length ≤ 16 then
    (d.digits * 10 ^ (d.exponent.toNat + 1), -1)
  else (d.digits, d.exponent)

/-- The text of a decimal stands for it. -/
theorem printed_value (d : Numeral) :
    ((printed d).1 : ℚ) * 10 ^ (printed d).2 = decimalValue d := by
  unfold printed
  split
  case isTrue whole =>
    have exponent : d.exponent = ((d.exponent.toNat + 1 : Nat) : Int) + -1 := by omega
    rw [decimalValue, exponent, zpow_add₀ (by norm_num), zpow_natCast]
    push_cast
    rw [mul_assoc]
    congr 3
    omega
  case isFalse => rfl

/-- The digits of a text make a number of 64 bits. -/
theorem printed_lt {d : Numeral} (small : d.digits < 10 ^ 17) :
    (printed d).1 < significandLimit := by
  have limit : 10 ^ 17 < significandLimit := by decide
  unfold printed
  split
  case isTrue whole =>
    have length_pos : 0 < (digits d.digits).length :=
      List.length_pos_of_ne_nil (digits_ne_nil d.digits)
    have value : d.digits < 10 ^ (digits d.digits).length :=
      (length_digits_le_iff length_pos).mp le_rfl
    calc d.digits * 10 ^ (d.exponent.toNat + 1)
        < 10 ^ (digits d.digits).length * 10 ^ (d.exponent.toNat + 1) :=
          Nat.mul_lt_mul_of_pos_right value (Nat.pow_pos (by decide))
      _ = 10 ^ ((digits d.digits).length + (d.exponent.toNat + 1)) := (Nat.pow_add ..).symm
      _ ≤ 10 ^ 17 := Nat.pow_le_pow_right (by decide) (by omega)
      _ < significandLimit := limit
  case isFalse => exact small.trans limit

/-! ### Reading a number with a point or an exponent -/

/-- A number without an exponent ends where its digits do. -/
theorem readExponent_ends {negative : Bool} {significand : Nat} {exponent : Int} {x : Float}
    {rest : List Char} (ends : NumberEnds rest)
    (assembled : assemble negative significand exponent = .ok x) :
    readExponent negative significand exponent rest = .ok (x, rest) := by
  have plain : readExponent negative significand exponent rest =
      (assemble negative significand exponent >>= fun x => pure (x, rest)) := by
    cases rest with
    | nil => rfl
    | cons c rest => rcases ends c rfl with rfl | rfl <;> rfl
  rw [plain, assembled]
  rfl

/-- The exponent of a number is read back from its sign and its digits. -/
theorem readExponent_digits {negative : Bool} {significand n : Nat} {exponent : Int} {x : Float}
    {rest : List Char} (ends : NumberEnds rest) (small : n < exponentLimit) (down : Bool)
    (assembled : assemble negative significand (if down then exponent - n else exponent + n) =
      .ok x) :
    readExponent negative significand exponent
      ('e' :: (if down then '-' else '+') :: (digits n ++ rest)) = .ok (x, rest) := by
  have nonempty : (digits n).isEmpty = false := by simpa using digits_ne_nil n
  have span := spanDigits_append (fun c => isDigit_of_mem_digits (n := n)) ends.noDigit
  have value : (digits n).foldl (fun n d => n * 10 + (d.toNat - 0x30)) 0 = n := by
    rw [foldl_eq_ofDigitChars, ofDigitChars_digits]
  cases down <;>
    simp only [readExponent, span, nonempty, value, Bool.false_eq_true, if_false, if_true,
      not_le.mpr small] at assembled ⊢ <;>
    simp only [assembled, bind, Except.bind, pure, Except.pure]

/-- The digits behind a point are taken in behind those in front of it. -/
theorem readFraction_digits {text : List Char} (isDigit : ∀ c ∈ text, c.isDigit)
    (some_digit : text ≠ []) {significand : Nat}
    (small : Nat.ofDigitChars 10 text significand < significandLimit) {rest : List Char}
    (behind : ∀ c ∈ rest.head?, c.isDigit = false) (negative : Bool) (exponent : Int) :
    readFraction negative significand exponent (text ++ rest) =
      readExponent negative (Nat.ofDigitChars 10 text significand) (exponent - text.length)
        rest := by
  have nonempty : text.isEmpty = false := by simpa using some_digit
  simp only [readFraction, spanDigits_append isDigit behind, takeDigits_eq small, nonempty,
    Bool.false_eq_true, if_false, List.length_nil, Nat.sub_zero]

/-- Digits that can stand in front of a point: there is one, and the first of several is not
zero. -/
structure Whole (text : List Char) : Prop where
  isDigit : ∀ c ∈ text, c.isDigit
  nonempty : text ≠ []
  noLeadingZero : ¬(text.head? = some '0' ∧ 1 < text.length)
  small : Nat.ofDigitChars 10 text 0 < significandLimit

/-- A digit can stand in front of a point. -/
theorem whole_digit {c : Char} (digit : c.isDigit) : Whole [c] := by
  have isDigit : ∀ d ∈ [c], d.isDigit := by
    intro d d_mem
    rw [List.mem_singleton.mp d_mem]
    exact digit
  refine ⟨isDigit, by simp, by simp, ?_⟩
  calc Nat.ofDigitChars 10 [c] 0 < 10 ^ 1 := ofDigitChars_lt isDigit
    _ < significandLimit := by decide

/-- A number with a point is read with the digits on both sides of it as its significand. -/
theorem readNumber_point {whole fraction rest behind : List Char} (front : Whole whole)
    (isDigit : ∀ c ∈ fraction, c.isDigit) (some_digit : fraction ≠ []) {significand : Nat}
    (value : Nat.ofDigitChars 10 fraction (Nat.ofDigitChars 10 whole 0) = significand)
    (small : significand < significandLimit) (other : ∀ c ∈ rest.head?, c.isDigit = false)
    {x : Float} (exponent : readExponent false significand (0 - fraction.length) rest = .ok (x, behind)) :
    readNumber false (whole ++ '.' :: (fraction ++ rest)) = .ok (.float x, behind) := by
  have nonempty : whole.isEmpty = false := by simpa using front.nonempty
  have point : ∀ c ∈ ('.' :: (fraction ++ rest)).head?, c.isDigit = false := by
    intro c head
    cases head
    rfl
  subst value
  simp only [readNumber, spanDigits_append front.isDigit point, nonempty, Bool.false_eq_true,
    if_false, front.noLeadingZero, takeDigits_eq front.small, List.length_nil, Nat.cast_zero,
    readFraction_digits isDigit some_digit small other, exponent, bind, Except.bind, pure,
    Except.pure]

/-- A number with an exponent is a double also without a point. -/
theorem readNumber_exponent {whole rest behind : List Char} (front : Whole whole) {x : Float}
    (exponent : readExponent false (Nat.ofDigitChars 10 whole 0) 0 ('e' :: rest) =
      .ok (x, behind)) :
    readNumber false (whole ++ 'e' :: rest) = .ok (.float x, behind) := by
  have nonempty : whole.isEmpty = false := by simpa using front.nonempty
  have letter : ∀ c ∈ ('e' :: rest).head?, c.isDigit = false := by
    intro c head
    cases head
    rfl
  simp only [readNumber, spanDigits_append front.isDigit letter, nonempty, Bool.false_eq_true,
    if_false, front.noLeadingZero, takeDigits_eq front.small, List.length_nil, Nat.cast_zero,
    exponent, bind, Except.bind, pure, Except.pure]

/-- The digits of a positive number can stand in front of a point, and so can some of them with
zeros behind. -/
theorem whole_take {n : Nat} (count zeros : Nat) (pos : 0 < n) (some_digit : 0 < count)
    (small : Nat.ofDigitChars 10 ((digits n).take count ++ List.replicate zeros '0') 0 <
      significandLimit) :
    Whole ((digits n).take count ++ List.replicate zeros '0') := by
  rcases List.exists_cons_of_ne_nil (digits_ne_nil n) with ⟨first, rest, text⟩
  rcases Nat.exists_eq_succ_of_ne_zero some_digit.ne' with ⟨more, rfl⟩
  refine ⟨fun c c_mem => ?_, ?_, ?_, small⟩
  · rcases List.mem_append.mp c_mem with digit | zero
    · exact isDigit_of_mem_digits (List.mem_of_mem_take digit)
    · rw [List.eq_of_mem_replicate zero]
      rfl
  · rw [text]
    simp
  · rintro ⟨zero, -⟩
    refine head?_digits_ne_zero pos ?_
    rw [text] at zero ⊢
    exact zero

/-- Digits after digits make one number. -/
theorem ofDigitChars_take_drop (n count : Nat) :
    Nat.ofDigitChars 10 ((digits n).drop count) (Nat.ofDigitChars 10 ((digits n).take count) 0) =
      n := by
  rw [← Nat.ofDigitChars_append, List.take_append_drop, ofDigitChars_digits]

section Layout

variable {d : Numeral} {x : Float} {rest : List Char}

/-- A decimal far from one is read with its exponent. -/
theorem readNumber_layout_far (small : d.digits < 10 ^ 17)
    (low : -300 ≤ d.exponent) (high : d.exponent ≤ 300) {order : Int}
    (order_eq : d.exponent + (digits d.digits).length - 1 = order)
    (far : order < positional.1 ∨ positional.2 < order)
    (assembled : assemble false d.digits d.exponent = .ok x) (ends : NumberEnds rest) :
    readNumber false (layout (digits d.digits) order ++ rest) = .ok (.float x, rest) := by
  have length_le : (digits d.digits).length ≤ 17 := (length_digits_le_iff (by decide)).mpr small
  have small_limit : d.digits < significandLimit := small.trans (by decide)
  generalize down_eq : decide (order < 0) = down
  have exponent_text : (if order < 0 then '-' :: Nat.toDigits 10 order.natAbs
      else '+' :: Nat.toDigits 10 order.natAbs) =
      (if down then '-' else '+') :: digits order.natAbs := by
    subst down_eq
    by_cases negative : order < 0 <;> simp [negative, digits]
  -- the exponent in the text is that of the first digit, and each digit behind the point takes one
  have behind (taken : Nat) (same : d.exponent = order - taken) :
      readExponent false d.digits (0 - taken)
        ('e' :: (if down then '-' else '+') :: (digits order.natAbs ++ rest)) = .ok (x, rest) := by
    refine readExponent_digits ends ?_ down ?_
    · have : order.natAbs < 400 := by omega
      exact this.trans (by decide)
    · rw [← assembled]
      congr 1
      subst down_eq
      by_cases negative : order < 0
      · rw [if_pos (decide_eq_true negative)]
        omega
      · rw [if_neg (by simpa using negative)]
        omega
  rcases List.exists_cons_of_ne_nil (digits_ne_nil d.digits) with ⟨first, tail, text⟩
  have isDigit : ∀ c ∈ first :: tail, c.isDigit := fun c c_mem =>
    isDigit_of_mem_digits (n := d.digits) (by rw [text]; exact c_mem)
  have front := whole_digit (isDigit first List.mem_cons_self)
  have value := ofDigitChars_digits d.digits
  rw [text] at order_eq value
  rw [layout.eq_def, if_pos far, exponent_text, text]
  cases tail with
  | nil =>
    have read := behind 0 (by simp only [List.length_singleton] at order_eq; omega)
    rw [← value] at read
    simpa only [List.append_assoc, List.cons_append, List.nil_append] using
      readNumber_exponent front read
  | cons second tail =>
    rw [← List.singleton_append, Nat.ofDigitChars_append] at value
    have read := behind (second :: tail).length
      (by simp only [List.length_cons] at order_eq ⊢; omega)
    simpa only [List.append_assoc, List.cons_append, List.nil_append] using
      readNumber_point front (fun c c_mem => isDigit c (List.mem_cons_of_mem first c_mem))
        (List.cons_ne_nil second tail) value small_limit (by intro c head; cases head; rfl) read

/-- A decimal a little below one is read with the zeros behind its point. -/
theorem readNumber_layout_below (small : d.digits < 10 ^ 17) {zeros : Nat}
    (order_eq : d.exponent + (digits d.digits).length - 1 = .negSucc zeros)
    (near : ¬(Int.negSucc zeros < positional.1 ∨ positional.2 < Int.negSucc zeros))
    (assembled : assemble false d.digits d.exponent = .ok x) (ends : NumberEnds rest) :
    readNumber false (layout (digits d.digits) (.negSucc zeros) ++ rest) =
      .ok (.float x, rest) := by
  have small_limit : d.digits < significandLimit := small.trans (by decide)
  have isDigit : ∀ c ∈ List.replicate zeros '0' ++ digits d.digits, c.isDigit := by
    intro c c_mem
    rcases List.mem_append.mp c_mem with zero | digit
    · rw [List.eq_of_mem_replicate zero]
      rfl
    · exact isDigit_of_mem_digits digit
  have value : Nat.ofDigitChars 10 (List.replicate zeros '0' ++ digits d.digits)
      (Nat.ofDigitChars 10 ['0'] 0) = d.digits := by
    rw [Nat.ofDigitChars_append, Nat.ofDigitChars_replicate_zero,
      show Nat.ofDigitChars 10 ['0'] 0 = 0 from rfl, Nat.mul_zero, ofDigitChars_digits]
  have read : readExponent false d.digits
      (0 - (List.replicate zeros '0' ++ digits d.digits).length) rest = .ok (x, rest) := by
    refine readExponent_ends ends ?_
    rw [← assembled]
    congr 1
    rw [List.length_append, List.length_replicate]
    omega
  rw [layout.eq_def, if_neg near]
  simpa only [List.append_assoc, List.cons_append, List.nil_append] using
    readNumber_point (whole_digit (c := '0') rfl) isDigit
      (List.append_ne_nil_of_right_ne_nil _ (digits_ne_nil _)) value small_limit ends.noDigit read

/-- A decimal from one on with digits behind its point is read with these. -/
theorem readNumber_layout_above (pos : 0 < d.digits) (small : d.digits < 10 ^ 17) {order : Nat}
    (order_eq : d.exponent + (digits d.digits).length - 1 = .ofNat order)
    (near : ¬(Int.ofNat order < positional.1 ∨ positional.2 < Int.ofNat order))
    (fraction : d.exponent < 0)
    (assembled : assemble false d.digits d.exponent = .ok x) (ends : NumberEnds rest) :
    readNumber false (layout (digits d.digits) (.ofNat order) ++ rest) = .ok (.float x, rest) := by
  have small_limit : d.digits < significandLimit := small.trans (by decide)
  rw [Int.ofNat_eq_natCast] at order_eq
  have front : Whole ((digits d.digits).take (order + 1)) := by
    have := whole_take (order + 1) 0 pos (by omega)
      (by
        rw [List.replicate_zero, List.append_nil]
        refine lt_of_le_of_lt (le_ofDigitChars ((digits d.digits).drop (order + 1)) _) ?_
        rwa [ofDigitChars_take_drop])
    rwa [List.replicate_zero, List.append_nil] at this
  have isDigit : ∀ c ∈ (digits d.digits).drop (order + 1), c.isDigit := fun c c_mem =>
    isDigit_of_mem_digits (List.mem_of_mem_drop c_mem)
  have long : 0 < ((digits d.digits).drop (order + 1)).length := by
    rw [List.length_drop]
    omega
  have nonempty : (digits d.digits).drop (order + 1) ≠ [] := List.ne_nil_of_length_pos long
  have read : readExponent false d.digits
      (0 - ((digits d.digits).drop (order + 1)).length) rest = .ok (x, rest) := by
    refine readExponent_ends ends ?_
    rw [← assembled]
    congr 1
    rw [List.length_drop] at long ⊢
    omega
  have full : order + 1 - ((digits d.digits).take (order + 1)).length = 0 := by
    rw [List.length_drop] at long
    rw [List.length_take]
    omega
  have some_fraction : ((digits d.digits).drop (order + 1)).isEmpty = false := by
    simpa using nonempty
  rw [layout.eq_def, if_neg near]
  simp only [full, List.replicate_zero, List.append_nil, some_fraction, Bool.false_eq_true,
    if_false]
  simpa only [List.append_assoc, List.cons_append] using
    readNumber_point front isDigit nonempty (ofDigitChars_take_drop _ _) small_limit ends.noDigit
      read

/-- A whole decimal is read with the zero behind its point. -/
theorem readNumber_layout_whole (pos : 0 < d.digits) {order : Nat}
    (order_eq : d.exponent + (digits d.digits).length - 1 = .ofNat order)
    (near : ¬(Int.ofNat order < positional.1 ∨ positional.2 < Int.ofNat order))
    (whole : 0 ≤ d.exponent)
    (small : d.digits * 10 ^ (d.exponent.toNat + 1) < significandLimit)
    (assembled : assemble false (d.digits * 10 ^ (d.exponent.toNat + 1)) (-1) = .ok x)
    (ends : NumberEnds rest) :
    readNumber false (layout (digits d.digits) (.ofNat order) ++ rest) = .ok (.float x, rest) := by
  rw [Int.ofNat_eq_natCast] at order_eq
  have all : (digits d.digits).length ≤ order + 1 := by omega
  have zeros : order + 1 - ((digits d.digits).take (order + 1)).length = d.exponent.toNat := by
    rw [List.length_take]
    omega
  have value : Nat.ofDigitChars 10 ((digits d.digits).take (order + 1) ++
      List.replicate d.exponent.toNat '0') 0 = d.digits * 10 ^ d.exponent.toNat := by
    rw [List.take_of_length_le all, Nat.ofDigitChars_append, Nat.ofDigitChars_replicate_zero,
      ofDigitChars_digits, Nat.mul_comm]
  have significand : Nat.ofDigitChars 10 ['0'] (d.digits * 10 ^ d.exponent.toNat) =
      d.digits * 10 ^ (d.exponent.toNat + 1) := by
    rw [Nat.ofDigitChars_cons, Nat.ofDigitChars_nil, Nat.pow_succ]
    simp only [Nat.sub_self, Nat.add_zero]
    ring
  have front := whole_take (order + 1) d.exponent.toNat pos (by omega) (by
      rw [value]
      refine lt_of_le_of_lt ?_ small
      exact Nat.mul_le_mul_left _ (Nat.pow_le_pow_right (by decide) (by omega)))
  rw [← value] at significand
  have zero : Whole ['0'] := whole_digit rfl
  have none_behind : ((digits d.digits).drop (order + 1)).isEmpty = true := by
    rw [List.drop_of_length_le all]
    rfl
  rw [layout.eq_def, if_neg near]
  simp only [zeros, none_behind, if_true]
  simpa only [List.append_assoc, List.cons_append, List.nil_append] using
    readNumber_point front zero.isDigit zero.nonempty significand small ends.noDigit
      (readExponent_ends ends assembled)

/-- A positive decimal with at most seventeen digits is read as its printed digits. -/
theorem readNumber_layout (pos : 0 < d.digits) (small : d.digits < 10 ^ 17)
    (low : -300 ≤ d.exponent) (high : d.exponent ≤ 300)
    (assembled : assemble false (printed d).1 (printed d).2 = .ok x) (ends : NumberEnds rest) :
    readNumber false
        (layout (digits d.digits) (d.exponent + (digits d.digits).length - 1) ++ rest) =
      .ok (.float x, rest) := by
  have length_pos : 0 < (digits d.digits).length :=
    List.length_pos_of_ne_nil (digits_ne_nil d.digits)
  have limit := printed_lt small
  unfold printed at assembled limit
  generalize order_eq : d.exponent + (digits d.digits).length - 1 = order
  by_cases far : order < positional.1 ∨ positional.2 < order
  · rw [if_neg (by simp only [positional] at far; omega)] at assembled
    exact readNumber_layout_far small low high order_eq far assembled ends
  · rcases order with order | zeros
    · by_cases whole : 0 ≤ d.exponent
      · have printed_whole : 0 ≤ d.exponent ∧ d.exponent + (digits d.digits).length ≤ 16 := by
          simp only [positional, Int.ofNat_eq_natCast] at far order_eq
          omega
        rw [if_pos printed_whole] at assembled limit
        exact readNumber_layout_whole pos order_eq far whole limit assembled ends
      · rw [if_neg (by omega)] at assembled
        exact readNumber_layout_above pos small order_eq far (by omega) assembled ends
    · rw [if_neg (by omega)] at assembled
      exact readNumber_layout_below small order_eq far assembled ends

end Layout

/-! ### Doubles -/

/-- The double that a significand and a power of ten are read as: that of the significand, times the
power of ten or over it. -/
def scaled (significand : Nat) (exponent : Int) : Float :=
  let power := Float.ofScientific 1 false exponent.natAbs
  if 0 ≤ exponent then (UInt64.ofNat significand).toFloat * power
  else (UInt64.ofNat significand).toFloat / power

/-- The digits of the text of a finite double without its point, and the power of ten that they are
taken times. -/
def written (x : Float) : Nat × Int :=
  match Binary64.ofFloat x with
  | .finite _ significand exponent atPower =>
    if significand = 0 then (0, -1) else printed (shortest significand exponent atPower)
  | _ => (0, -1)

/-- What the text of a positive finite double is read as. -/
def reread (x : Float) : Float := scaled (written x).1 (written x).2

/-- A double that an average can be: zero, or one of a size that quotients of numbers of 64 bits
have. -/
def IsAverage (x : Float) : Prop := x = 0.0 ∨ ∃ m e, IsDouble x m e ∧ -117 ≤ e ∧ e ≤ 13

/-- Nothing over something is zero. -/
theorem zero_div_toFloat {n : UInt64} (pos : 0 < n.toNat) :
    (0 : UInt64).toFloat / n.toFloat = 0.0 := by
  rcases isDouble_toFloat pos with ⟨m, e, double, -⟩
  rcases double.unpack with ⟨m_pos, unpacked⟩
  have zero : (0 : UInt64).toFloat.toModel.unpack = .zero .positive := by rfl
  change Float.ofModel (Float.Model.pack (Float.Model.UnpackedFloat.div .binary64
    (0 : UInt64).toFloat.toModel.unpack n.toFloat.toModel.unpack)) = _
  rw [zero, unpacked]
  change Float.ofModel (Float.Model.pack (.zero .positive)) = _
  decide +kernel

/-- A quotient of numbers of 64 bits is an average. -/
theorem isAverage_div (total : UInt64) {count : UInt64} (pos : 0 < count.toNat) :
    IsAverage (total.toFloat / count.toFloat) := by
  rcases Nat.eq_zero_or_pos total.toNat with zero | total_pos
  · have total_eq : total = 0 := UInt64.toNat_inj.mp zero
    rw [total_eq]
    exact .inl (zero_div_toFloat pos)
  · right
    rcases isDouble_toFloat total_pos with ⟨m, e, double, covers⟩
    rcases isDouble_toFloat pos with ⟨m', e', double', covers'⟩
    have mem := double.exponent_mem_of_toFloat total_pos covers
    have mem' := double'.exponent_mem_of_toFloat pos covers'
    rcases isDouble_div double double' (by omega) (by omega) with ⟨r, E, quotient, covers_quotient⟩
    rcases double.value_mem mem.1 mem.2 with ⟨low, high⟩
    rcases double'.value_mem mem'.1 mem'.2 with ⟨low', high'⟩
    have value_pos : (0 : ℚ) < m' * 2 ^ e' := one_pos.trans_le low'
    have size := covers_quotient.exponent_mem quotient.normal (a := -65) (b := 65) ?_ ?_
    · exact ⟨r, E, quotient, by omega, by omega⟩
    · rw [le_div_iff₀ value_pos]
      calc (2 : ℚ) ^ (-65 : Int) * (m' * 2 ^ e') ≤ 2 ^ (-65 : Int) * 2 ^ (65 : Int) :=
            mul_le_mul_of_nonneg_left high'.le (by positivity)
        _ = 1 := by norm_num
        _ ≤ m * 2 ^ e := low
    · rw [div_le_iff₀ value_pos]
      calc (m : ℚ) * 2 ^ e ≤ 2 ^ (65 : Int) := high.le
        _ ≤ 2 ^ (65 : Int) * (m' * 2 ^ e') := le_mul_of_one_le_right (by positivity) low'

/-! ### Reading it -/

/-- A text that is read as a number begins with a digit. -/
theorem isDigit_of_readNumber {negative : Bool} {cs : List Char} {result : Number × List Char}
    (read : readNumber negative cs = .ok result) : ∃ c rest, cs = c :: rest ∧ c.isDigit := by
  cases cs with
  | nil => cases read
  | cons c rest =>
    refine ⟨c, rest, rfl, ?_⟩
    by_contra other
    have none_there : (c :: rest).takeWhile Char.isDigit = [] :=
      List.takeWhile_cons_of_neg (by simpa using other)
    simp only [readNumber, spanDigits, none_there, List.isEmpty_nil, if_true] at read
    cases read

/-- A double comes back as what its text is read as, and its text does not begin like a null. -/
theorem Reads.float {x y : Float} (read : ∀ rest, NumberEnds rest →
      readNumber false (floatText x ++ rest) = .ok (.float y, rest)) :
    Reads Read.float (.float x) (.float y) ∧ (floatText x).head? ≠ some 'n' := by
  have alone := read [] fun _ head => nomatch head
  rw [List.append_nil] at alone
  rcases isDigit_of_readNumber alone with ⟨c, tail, text, digit⟩
  refine ⟨⟨fun _ => ⟨c, tail, text, .of_isDigit digit⟩, fun depth gap rest blank ends => ?_⟩, ?_⟩
  · have begins : skipBlank (gap ++ Json.write depth (.float x) ++ rest) = c :: (tail ++ rest) := by
      rw [List.append_assoc, skipBlank_gap_append blank, Json.write, text, List.cons_append,
        skipBlank_of_opens (.of_isDigit digit)]
    have found : number (gap ++ Json.write depth (.float x) ++ rest) = .ok (.float y, rest) := by
      rw [number_of_isDigit begins digit, ← List.cons_append, ← text]
      exact read rest ends
    simp only [Read.float, found, bind, Except.bind]
    rfl
  · rw [text, List.head?_cons]
    intro same
    rw [Option.some.inj same] at digit
    exact absurd digit (by decide)

/-- The double of a significand and a power of ten of a moderate size is put together. -/
theorem assemble_eq_scaled {significand : Nat} {exponent : Int} (pos : 0 < significand)
    (small : significand < significandLimit) (low : -308 ≤ exponent) (high : exponent ≤ 22) :
    assemble false significand exponent = .ok (scaled significand exponent) := by
  have within : exponent.natAbs ≤ powerLimit := by
    simp only [powerLimit]
    omega
  unfold scaled
  by_cases up : 0 ≤ exponent
  · have whole : (UInt64.ofNat significand).toNat = significand := UInt64.toNat_ofNat_of_lt' small
    rcases isDouble_toFloat (n := UInt64.ofNat significand) (whole.symm ▸ pos) with
      ⟨m, e, double, covers⟩
    have mem := double.exponent_mem_of_toFloat (whole.symm ▸ pos) covers
    rcases isDouble_power (k := exponent.natAbs) (by omega) with ⟨m', e', power, -, mem'⟩
    rcases isDouble_mul double power (by omega) (by omega) with ⟨r, E, product, -⟩
    simp only [assemble, scale, if_pos within, if_pos up, product.isInf, bind, Except.bind,
      Bool.false_eq_true, if_false, pure, Except.pure]
  · simp only [assemble, scale, if_pos within, if_neg up, bind, Except.bind, Bool.false_eq_true,
      if_false, pure, Except.pure]

/-- The text of a positive double is that of its shortest decimal. -/
theorem floatText_isDouble {x : Float} {m : Nat} {e : Int} (double : IsDouble x m e)
    (low : -117 ≤ e) :
    floatText x = layout (digits (shortest m e (m = 2 ^ 52)).digits)
        ((shortest m e (m = 2 ^ 52)).exponent +
          (digits (shortest m e (m = 2 ^ 52)).digits).length - 1) ∧
      written x = printed (shortest m e (m = 2 ^ 52)) := by
  have nonzero : m ≠ 0 := by
    have := double.normal.1
    omega
  have flag : (decide (m = 2 ^ 52) && e != -1074) = decide (m = 2 ^ 52) := by
    rw [show (e != -1074) = true by simp; omega, Bool.and_true]
  rw [floatText, written, double.ofFloat]
  simp only [if_neg nonzero, flag, Bool.false_eq_true, if_false, and_self]

/-- The digits of the text of a positive decimal are not all zeros. -/
theorem printed_pos {d : Numeral} (pos : 0 < d.digits) : 0 < (printed d).1 := by
  unfold printed
  split
  case isTrue => exact Nat.mul_pos pos (Nat.pow_pos (by decide))
  case isFalse => exact pos

/-- The power of ten in the text of a decimal is that of the decimal or the one of a zero behind the
point. -/
theorem printed_exponent (d : Numeral) : (printed d).2 = -1 ∨ (printed d).2 = d.exponent := by
  unfold printed
  split
  case isTrue => exact .inl rfl
  case isFalse => exact .inr rfl

/-- Zero is written with its point. -/
theorem readNumber_zero {rest : List Char} (ends : NumberEnds rest) :
    readNumber false (floatText 0.0 ++ rest) = .ok (.float (reread 0.0), rest) := by
  have text : floatText 0.0 = ['0'] ++ '.' :: ['0'] := by decide +kernel
  have written_eq : written 0.0 = (0, -1) := by decide +kernel
  have zero : Whole ['0'] := whole_digit rfl
  rw [text, reread, written_eq]
  refine readNumber_point zero zero.isDigit zero.nonempty rfl (by decide) ends.noDigit
    (readExponent_ends ends ?_)
  simp only [assemble, scale, scaled, bind, Except.bind, pure, Except.pure, Bool.false_eq_true,
    if_false]
  rfl

/-- An average comes back as what its text is read as. -/
theorem reads_float {x : Float} (average : IsAverage x) :
    Reads Read.float (.float x) (.float (reread x)) ∧ (floatText x).head? ≠ some 'n' := by
  apply Reads.float
  intro rest ends
  rcases average with rfl | ⟨m, e, double, low, high⟩
  · exact readNumber_zero ends
  · rcases shortest_covers double.normal low high with ⟨-, pos, small, exponent_low, exponent_high⟩
    rcases floatText_isDouble double low with ⟨text, written_eq⟩
    generalize shortest m e (m = 2 ^ 52) = d at *
    have exponent_mem : -308 ≤ (printed d).2 ∧ (printed d).2 ≤ 22 := by
      rcases printed_exponent d with same | same <;> omega
    rw [text, reread, written_eq]
    exact readNumber_layout pos small (by omega) (by omega)
      (assemble_eq_scaled (printed_pos pos) (printed_lt small) exponent_mem.1 exponent_mem.2) ends

/-! ### When it is the same double -/

/-- A significand of 53 bits and a power of ten that is a double are scaled to the double of the
number that they make. -/
theorem scaled_covers {significand : Nat} {exponent : Int} (pos : 0 < significand)
    (exact : significand ≤ 2 ^ 53) (power : exponent.natAbs ≤ 22) :
    ∃ m e, IsDouble (scaled significand exponent) m e ∧
      Covers m e (significand * 10 ^ exponent) := by
  have limit : significand < 2 ^ 64 := exact.trans_lt (by decide)
  have whole : (UInt64.ofNat significand).toNat = significand := UInt64.toNat_ofNat_of_lt' limit
  rcases isDouble_toFloat_exact (n := UInt64.ofNat significand) (whole.symm ▸ pos)
    (whole.symm ▸ exact) with ⟨m, e, double, value, low, high⟩
  rcases isDouble_power power with ⟨m', e', double', value', low', high'⟩
  rw [whole] at value
  unfold scaled
  by_cases up : 0 ≤ exponent
  · rcases isDouble_mul double double' (by omega) (by omega) with ⟨r, E, product, covers⟩
    have exponent_eq : exponent = (exponent.natAbs : Int) := by omega
    rw [value, value'] at covers
    rw [if_pos up]
    refine ⟨r, E, product, ?_⟩
    rwa [exponent_eq, zpow_natCast]
  · rcases isDouble_div double double' (by omega) (by omega) with ⟨r, E, quotient, covers⟩
    have exponent_eq : exponent = -(exponent.natAbs : Int) := by omega
    rw [value, value'] at covers
    rw [if_neg up]
    refine ⟨r, E, quotient, ?_⟩
    rwa [exponent_eq, zpow_neg, zpow_natCast, ← div_eq_mul_inv]

/-- An average comes back as itself if the digits of its text make a number of 53 bits and the power
of ten is a double: the only step that rounds is then the last one, and the text stands for no other
double. -/
theorem reread_eq {x : Float} (average : IsAverage x) (exact : (written x).1 ≤ 2 ^ 53)
    (power : (written x).2.natAbs ≤ 22) : reread x = x := by
  rcases average with rfl | ⟨m, e, double, low, high⟩
  · decide +kernel
  · rcases shortest_covers double.normal low high with ⟨covers, pos, -, -, -⟩
    rcases floatText_isDouble double low with ⟨-, written_eq⟩
    generalize shortest m e (m = 2 ^ 52) = d at *
    rw [written_eq] at exact power
    rw [reread, written_eq]
    rw [← printed_value] at covers
    rcases scaled_covers (printed_pos pos) exact power with ⟨r, E, scaled_double, covers'⟩
    rcases covers.unique double.normal scaled_double.normal covers' with ⟨rfl, rfl⟩
    exact scaled_double.unique double

end Occupancy.Json
