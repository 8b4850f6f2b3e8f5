/-
Module: Occupancy.Proofs.DoubleRounding
Purpose: Which double an operation of doubles gives, told by the numbers that are rounded to it.
Main exports: Covers, Covers.unique, IsDouble, isDouble_toFloat, isDouble_div, isDouble_mul,
  isDouble_toFloat_exact, isDouble_power
-/
import Mathlib
import Occupancy.Decimal.Binary64

namespace Occupancy.Decimal

open Float.Model Float.Model.UnpackedFloat

/-!
A normal double stands for all the numbers that are rounded to it: those up to the middles to its
two neighbours, and the middles themselves if its significand is even. No number is rounded to two
doubles, so an operation is told by one number, its exact result. The proofs follow the significand
of that result while it is shifted and rounded; a digit and the question whether anything lies
behind it are all that is kept of the rest.
-/

/-! ### Rounding a significand -/

/-- A whole number is nearest to a number, and even if another one is as near. -/
def Nearest (y : ℚ) (r : Nat) : Prop := |(r : ℚ) - y| < 1 / 2 ∨ |(r : ℚ) - y| = 1 / 2 ∧ r % 2 = 0

/-- What is nearest is at most a half away. -/
theorem Nearest.distance {y : ℚ} {r : Nat} (nearest : Nearest y r) : |(r : ℚ) - y| ≤ 1 / 2 := by
  rcases nearest with less | same
  · exact less.le
  · exact same.1.le

/-- A significand with its two bits shows a number: the bits are the next binary digit and whether
anything lies behind that. -/
def Shows (em : ExtendedMantissa) (y : ℚ) : Prop :=
  ∃ rest : ℚ, 0 ≤ rest ∧ rest < 1 ∧ (em.stickyBit = true ↔ rest ≠ 0) ∧
    y = em.mantissa + ((em.roundBit.toNat : ℚ) + rest) / 2

/-- A whole significand shows itself. -/
theorem shows_exact (m : Nat) : Shows (.ofMantissaAndAccuracy m .exact) m :=
  ⟨0, le_rfl, one_pos, by simp [ExtendedMantissa.ofMantissaAndAccuracy], by
    simp [ExtendedMantissa.ofMantissaAndAccuracy]⟩

/-- A quotient of whole numbers is shown by what is known of its remainder. -/
theorem shows_fraction {m num den : Nat} (proper : num < den) :
    Shows (.ofMantissaAndAccuracy m (accuracyOfFraction num den)) (m + (num : ℚ) / den) := by
  have den_pos : (0 : ℚ) < den := by exact_mod_cast Nat.zero_lt_of_lt proper
  have below : (num : ℚ) < den := by exact_mod_cast proper
  unfold accuracyOfFraction
  split
  case isTrue zero =>
    subst zero
    simpa using shows_exact m
  case isFalse positive =>
    have num_pos : (0 : ℚ) < num := by exact_mod_cast Nat.pos_of_ne_zero positive
    have fraction_pos : 0 < (num : ℚ) / den := div_pos num_pos den_pos
    have fraction_lt : (num : ℚ) / den < 1 := (div_lt_one den_pos).mpr below
    rcases lt_trichotomy (2 * num) den with less | same | more
    · have half : 2 * ((num : ℚ) / den) < 1 := by
        rw [← mul_div_assoc, div_lt_one den_pos]
        exact_mod_cast less
      rw [Nat.compare_eq_lt.mpr less]
      exact ⟨2 * (num / den), by linarith, half, by
        simp [ExtendedMantissa.ofMantissaAndAccuracy, num_pos.ne', den_pos.ne'], by
        simp [ExtendedMantissa.ofMantissaAndAccuracy]⟩
    · have half : (num : ℚ) / den = 1 / 2 := by
        rw [div_eq_div_iff den_pos.ne' two_ne_zero, one_mul, mul_comm]
        exact_mod_cast same
      rw [Nat.compare_eq_eq.mpr same]
      exact ⟨0, le_rfl, one_pos, by simp [ExtendedMantissa.ofMantissaAndAccuracy], by
        simp [ExtendedMantissa.ofMantissaAndAccuracy, half]⟩
    · have half : 1 < 2 * ((num : ℚ) / den) := by
        rw [← mul_div_assoc, one_lt_div den_pos]
        exact_mod_cast more
      rw [Nat.compare_eq_gt.mpr more]
      refine ⟨2 * (num / den) - 1, by linarith, by linarith, ?_, ?_⟩
      · simp only [ExtendedMantissa.ofMantissaAndAccuracy, ne_eq, true_iff]
        linarith
      · simp only [ExtendedMantissa.ofMantissaAndAccuracy, Bool.toNat_true]
        ring

/-- Shifting by one place halves what is shown. -/
theorem Shows.shiftRightOne {em : ExtendedMantissa} {y : ℚ} (shows_y : Shows em y) :
    Shows em.shiftRightOne (y / 2) := by
  rcases em with ⟨m, round, sticky⟩
  rcases shows_y with ⟨rest, nonneg, small, sticky_iff, y_eq⟩
  simp only at sticky_iff y_eq
  have bit : ((m % 2 != 0).toNat : ℚ) = ((m % 2 : Nat) : ℚ) := by
    rcases Nat.mod_two_eq_zero_or_one m with even | odd
    · simp [even]
    · simp [odd]
  have parts : (m : ℚ) = 2 * ((m / 2 : Nat) : ℚ) + ((m % 2 : Nat) : ℚ) := by
    exact_mod_cast (Nat.div_add_mod m 2).symm
  have round_mem : 0 ≤ (round.toNat : ℚ) ∧ (round.toNat : ℚ) ≤ 1 := by
    cases round <;> simp
  refine ⟨((round.toNat : ℚ) + rest) / 2, by linarith, by linarith, ?_, ?_⟩
  · cases round
    · simp [ExtendedMantissa.shiftRightOne, sticky_iff]
    · simp only [ExtendedMantissa.shiftRightOne, Bool.true_or, Bool.toNat_true, ne_eq, true_iff,
        Nat.cast_one]
      linarith
  · simp only [ExtendedMantissa.shiftRightOne, bit]
    rw [y_eq, parts]
    ring

/-- Shifting divides what is shown by a power of two. -/
theorem Shows.shiftRight {em : ExtendedMantissa} {y : ℚ} (shows_y : Shows em y) (k : Nat) :
    Shows (em >>> k) (y / 2 ^ k) := by
  induction k with
  | zero =>
    rw [pow_zero, div_one]
    exact shows_y
  | succ k inductionHypothesis =>
    have step := inductionHypothesis.shiftRightOne
    rw [div_div, ← pow_succ] at step
    exact step

/-- The significand is the whole part of what is shown. -/
theorem Shows.floor {em : ExtendedMantissa} {y : ℚ} (shows_y : Shows em y) :
    (em.mantissa : ℚ) ≤ y ∧ y < em.mantissa + 1 := by
  rcases shows_y with ⟨rest, nonneg, small, -, y_eq⟩
  have round_mem : 0 ≤ (em.roundBit.toNat : ℚ) ∧ (em.roundBit.toNat : ℚ) ≤ 1 := by
    cases em.roundBit <;> simp
  rw [y_eq]
  constructor <;> linarith

/-- The rounded significand is the nearest one. -/
theorem Shows.nearest {em : ExtendedMantissa} {y : ℚ} (shows_y : Shows em y) :
    Nearest y em.roundedMantissa := by
  rcases em with ⟨m, round, sticky⟩
  rcases shows_y with ⟨rest, nonneg, small, sticky_iff, y_eq⟩
  simp only at sticky_iff y_eq
  subst y_eq
  cases round <;> cases sticky
  · have zero : rest = 0 := by simpa using sticky_iff
    left
    simp [ExtendedMantissa.roundedMantissa, ExtendedMantissa.accuracy,
      Accuracy.roundToNearestEven, zero]
  · have positive : 0 < rest := lt_of_le_of_ne nonneg (sticky_iff.mp rfl).symm
    left
    simp only [ExtendedMantissa.roundedMantissa, ExtendedMantissa.accuracy,
      Accuracy.roundToNearestEven, Bool.toNat_false, Nat.cast_zero, zero_add]
    rw [abs_lt]
    constructor <;> linarith
  · have zero : rest = 0 := by simpa using sticky_iff
    right
    simp only [ExtendedMantissa.roundedMantissa, ExtendedMantissa.accuracy,
      Accuracy.roundToNearestEven, Bool.toNat_true, Nat.cast_one, zero, add_zero]
    rcases Nat.mod_two_eq_zero_or_one m with even | odd
    · refine ⟨?_, by omega⟩
      rw [even, add_zero, show (m : ℚ) - (m + 1 / 2) = -(1 / 2) by ring, abs_neg]
      norm_num
    · refine ⟨?_, by omega⟩
      rw [odd, Nat.cast_add, Nat.cast_one, show (m : ℚ) + 1 - (m + 1 / 2) = 1 / 2 by ring]
      norm_num
  · have positive : 0 < rest := lt_of_le_of_ne nonneg (sticky_iff.mp rfl).symm
    left
    simp only [ExtendedMantissa.roundedMantissa, ExtendedMantissa.accuracy,
      Accuracy.roundToNearestEven, Bool.toNat_true, Nat.cast_one, Nat.cast_add]
    rw [abs_lt]
    constructor <;> linarith

/-! ### The numbers of a double -/

/-- A significand that fills its place. -/
def Normal (m : Nat) : Prop := 2 ^ 52 ≤ m ∧ m < 2 ^ 53

/-- How far below its significand the numbers of a double begin: the doubles below a power of two
lie closer together. -/
def below (m : Nat) : ℚ := if m = 2 ^ 52 then 1 / 4 else 1 / 2

/-- The numbers that a double stands for. The middles to its neighbours are among them if its
significand is even. -/
structure Covers (m : Nat) (e : Int) (v : ℚ) : Prop where
  low : (m - below m) * 2 ^ e ≤ v
  high : v ≤ (m + 1 / 2) * 2 ^ e
  inside : m % 2 = 1 → (m - below m) * 2 ^ e < v ∧ v < (m + 1 / 2) * 2 ^ e

/-- A half and a quarter bound how far below a double its numbers begin. -/
theorem below_mem (m : Nat) : 1 / 4 ≤ below m ∧ below m ≤ 1 / 2 := by
  unfold below
  split <;> norm_num

/-- A double stands for itself. -/
theorem covers_self (m : Nat) (e : Int) : Covers m e (m * 2 ^ e) := by
  have power : (0 : ℚ) < 2 ^ e := zpow_pos two_pos e
  have below_pos : 0 < below m := by linarith [(below_mem m).1]
  have low : (m - below m) * (2 : ℚ) ^ e < m * 2 ^ e :=
    mul_lt_mul_of_pos_right (by linarith) power
  have high : (m : ℚ) * 2 ^ e < (m + 1 / 2) * 2 ^ e :=
    mul_lt_mul_of_pos_right (by linarith) power
  exact ⟨low.le, high.le, fun _ => ⟨low, high⟩⟩

/-- No number is that of a double and of one with a greater exponent. -/
theorem Covers.not_exponent_lt {m m' : Nat} {e e' : Int} {v : ℚ} (normal : Normal m)
    (normal' : Normal m') (covers : Covers m e v) (covers' : Covers m' e' v) : ¬e < e' := by
  intro less
  have power : (0 : ℚ) < 2 ^ e := zpow_pos two_pos e
  have double : 2 * (2 : ℚ) ^ e ≤ 2 ^ e' := by
    rw [mul_comm, ← zpow_add_one₀ two_ne_zero]
    exact zpow_le_zpow_right₀ one_le_two (by omega)
  -- the lower end of the greater one is the upper end of the greatest significand, at least
  have least : (2 : ℚ) ^ 52 - 1 / 4 ≤ m' - below m' := by
    unfold below
    split
    case isTrue same => rw [same]; norm_num
    case isFalse other =>
      have more : 2 ^ 52 + 1 ≤ m' := by
        have := normal'.1
        omega
      have : ((2 ^ 52 + 1 : Nat) : ℚ) ≤ m' := by exact_mod_cast more
      push_cast at this
      linarith
  have start : ((2 : ℚ) ^ 53 - 1 / 2) * 2 ^ e ≤ v :=
    calc ((2 : ℚ) ^ 53 - 1 / 2) * 2 ^ e = ((2 : ℚ) ^ 52 - 1 / 4) * (2 * 2 ^ e) := by ring
      _ ≤ (m' - below m') * 2 ^ e' :=
        mul_le_mul least double (by positivity) (by linarith [(by norm_num : (0 : ℚ) ≤ 2 ^ 52 - 1 / 4)])
      _ ≤ v := covers'.low
  have greatest : m + 1 = 2 ^ 53 := by
    by_contra other
    have small : m + 2 ≤ 2 ^ 53 := by
      have := normal.2
      omega
    have small_cast : (m : ℚ) + 2 ≤ 2 ^ 53 := by exact_mod_cast small
    have := start.trans covers.high
    nlinarith
  have greatest_cast : (m : ℚ) + 1 = 2 ^ 53 := by exact_mod_cast greatest
  have end_lt := (covers.inside (by omega)).2
  rw [show (m : ℚ) + 1 / 2 = 2 ^ 53 - 1 / 2 by linarith] at end_lt
  linarith

/-- No number is that of two doubles. -/
theorem Covers.unique {m m' : Nat} {e e' : Int} {v : ℚ} (normal : Normal m) (normal' : Normal m')
    (covers : Covers m e v) (covers' : Covers m' e' v) : m = m' ∧ e = e' := by
  have same : e = e' :=
    le_antisymm (not_lt.mp (covers'.not_exponent_lt normal' normal covers))
      (not_lt.mp (covers.not_exponent_lt normal normal' covers'))
  subst same
  refine ⟨?_, rfl⟩
  have power : (0 : ℚ) < 2 ^ e := zpow_pos two_pos e
  -- two neighbours share a middle, which belongs to the even one
  have step {a b : Nat} (covers_a : Covers a e v) (covers_b : Covers b e v) : ¬a < b := by
    intro less
    have less_cast : (a : ℚ) + 1 ≤ b := by exact_mod_cast less
    have gap : (a + 1 / 2) * (2 : ℚ) ^ e ≤ (b - below b) * 2 ^ e :=
      mul_le_mul_of_nonneg_right (by linarith [(below_mem b).2]) power.le
    rcases Nat.mod_two_eq_zero_or_one a with even | odd
    · have next : b = a + 1 ∨ (a : ℚ) + 2 ≤ b := by
        rcases Nat.eq_or_lt_of_le less with same | more
        · exact .inl same.symm
        · exact .inr (by exact_mod_cast more)
      rcases next with same | more
      · have := (covers_b.inside (by omega)).1
        linarith [covers_a.high]
      · have : (a + 1 / 2) * (2 : ℚ) ^ e < (b - below b) * 2 ^ e :=
          mul_lt_mul_of_pos_right (by linarith [(below_mem b).2]) power
        linarith [covers_a.high, covers_b.low]
    · have := (covers_a.inside odd).2
      linarith [covers_b.low]
  exact le_antisymm (not_lt.mp (step covers' covers)) (not_lt.mp (step covers covers'))

/-! ### The rounding of an operation -/

/-- The exponent that a significand is shifted to. -/
theorem targetExponent_eq (m : Nat) (e : Int) :
    Format.binary64.targetExponent (totalExponent m e) = max (m.log2 + e - 52) (-1074) := by
  simp only [Format.targetExponent, totalExponent, Format.mantissaBits, Format.minExponent]
  norm_num
  omega

/-- A wide significand is shifted until it fills its place. -/
theorem shiftToTargetExponent_wide {m : Nat} {e : Int} (wide : 52 ≤ m.log2)
    (low : -1074 ≤ e + (m.log2 - 52)) (accuracy : Accuracy) :
    shiftToTargetExponent Format.binary64 m e accuracy =
      (ExtendedMantissa.ofMantissaAndAccuracy m accuracy >>> (m.log2 - 52), e + (m.log2 - 52)) := by
  have amount : (max ((m.log2 : Int) + e - 52) (-1074) - e).toNat = m.log2 - 52 := by omega
  simp only [shiftToTargetExponent, targetExponent_eq, shiftToExponent, amount]
  refine Prod.ext rfl ?_
  simp only
  omega

/-- A significand that fills its place stays as it is. -/
theorem shiftToTargetExponent_normal {m : Nat} (normal : Normal m) {e : Int} (low : -1074 ≤ e) :
    shiftToTargetExponent Format.binary64 m e .exact = (⟨m, false, false⟩, e) := by
  have log : m.log2 = 52 := (Nat.log2_eq_iff (by have := normal.1; omega)).mpr normal
  rw [shiftToTargetExponent_wide log.ge (by omega), log]
  simp only [Nat.cast_ofNat, sub_self, add_zero]
  rfl

/-- A significand that rounding has made one too great fills its place with one step more. -/
theorem shiftToTargetExponent_carry {e : Int} (low : -1074 ≤ e) :
    shiftToTargetExponent Format.binary64 (2 ^ 53) e .exact = (⟨2 ^ 52, false, false⟩, e + 1) := by
  rw [shiftToTargetExponent_wide (by rw [Nat.log2_two_pow]; decide)
    (by rw [Nat.log2_two_pow]; omega), Nat.log2_two_pow]
  refine Prod.ext ?_ (by simp only; omega)
  change ExtendedMantissa.shiftRightOne ⟨2 ^ 53, false, false⟩ = _
  simp [ExtendedMantissa.shiftRightOne]

/-- A significand that is wider than its place fills it before it is rounded. -/
theorem quotient_mem {m k : Nat} (place : m.log2 = 52 + k) {y : ℚ} (low : (m : ℚ) ≤ y)
    (high : y < m + 1) : (2 : ℚ) ^ 52 ≤ y / 2 ^ k ∧ y / 2 ^ k < 2 ^ 53 := by
  have m_pos : m ≠ 0 := by
    rintro rfl
    rw [Nat.log2_zero] at place
    omega
  have power : (0 : ℚ) < 2 ^ k := by positivity
  constructor
  · rw [le_div_iff₀ power, ← pow_add, ← place]
    calc (2 : ℚ) ^ m.log2 ≤ m := by exact_mod_cast Nat.log2_self_le m_pos
      _ ≤ y := low
  · rw [div_lt_iff₀ power, ← pow_add, show 53 + k = m.log2 + 1 by omega]
    calc y < m + 1 := high
      _ ≤ 2 ^ (m.log2 + 1) := by exact_mod_cast Nat.lt_log2_self (n := m)

/-- The whole number nearest to a value that fills its place stands for it. -/
theorem Nearest.covers {r : Nat} {z : ℚ} (nearest : Nearest z r) (z_low : (2 : ℚ) ^ 52 ≤ z)
    (e : Int) : Covers r e (z * 2 ^ e) := by
  have scale : (0 : ℚ) < 2 ^ e := zpow_pos two_pos _
  rcases abs_le.mp nearest.distance with ⟨low, high⟩
  have low' : r - below r ≤ z := by
    unfold below
    split
    case isTrue power_of_two =>
      rw [power_of_two]
      push_cast
      linarith
    case isFalse => linarith
  refine ⟨mul_le_mul_of_nonneg_right low' scale.le,
    mul_le_mul_of_nonneg_right (by linarith) scale.le, fun odd => ?_⟩
  have strict : |(r : ℚ) - z| < 1 / 2 := by
    rcases nearest with less | same
    · exact less
    · omega
  rcases abs_lt.mp strict with ⟨strict_low, strict_high⟩
  have below_eq : below r = 1 / 2 := if_neg (by omega)
  rw [below_eq]
  exact ⟨mul_lt_mul_of_pos_right (by linarith) scale, mul_lt_mul_of_pos_right (by linarith) scale⟩

/-- A value that is rounded up to one bit more is one of those of the next power of two. -/
theorem Nearest.covers_carry {z : ℚ} (nearest : Nearest z (2 ^ 53)) (z_high : z < 2 ^ 53) (e : Int) :
    Covers (2 ^ 52) (e + 1) (z * 2 ^ e) := by
  have scale : (0 : ℚ) < 2 ^ e := zpow_pos two_pos _
  rcases abs_le.mp nearest.distance with ⟨low, high⟩
  rw [Nat.cast_pow, Nat.cast_ofNat] at low high
  have double : (2 : ℚ) ^ (e + 1) = 2 * 2 ^ e := by
    rw [zpow_add_one₀ two_ne_zero, mul_comm]
  refine ⟨?_, ?_, fun odd => absurd odd (by norm_num)⟩
  · rw [double, below, if_pos rfl]
    push_cast
    nlinarith
  · rw [double]
    push_cast
    nlinarith

/-- The result of an operation stands for its exact value, which the significand shows before it is
rounded. -/
theorem roundWithAccuracy_covers {m : Nat} {e : Int} {accuracy : Accuracy} {y : ℚ}
    (wide : 52 ≤ m.log2) (low : -1074 ≤ e + (m.log2 - 52))
    (shows_y : Shows (.ofMantissaAndAccuracy m accuracy) y) (sign : Sign) :
    ∃ (r : Nat) (E : Int) (pos : 0 < r),
      roundWithAccuracy Format.binary64 sign m e accuracy = .finite sign r E pos ∧ Normal r ∧
      Covers r E (y * 2 ^ e) ∧ e + (m.log2 - 52) ≤ E ∧ E ≤ e + (m.log2 - 52) + 1 := by
  have m_eq : (ExtendedMantissa.ofMantissaAndAccuracy m accuracy).mantissa = m := by
    rcases accuracy with _ | order
    · rfl
    · cases order <;> rfl
  have floor := shows_y.floor
  rw [m_eq] at floor
  have nearest := (shows_y.shiftRight (m.log2 - 52)).nearest
  generalize em_eq :
    ExtendedMantissa.ofMantissaAndAccuracy m accuracy >>> (m.log2 - 52) = em at nearest
  generalize r_eq : em.roundedMantissa = r at nearest
  generalize k_eq : m.log2 - 52 = k at nearest em_eq
  have exponent : (m.log2 : Int) - 52 = k := by omega
  have value : y * 2 ^ e = y / 2 ^ k * 2 ^ (e + k) := by
    rw [zpow_add₀ two_ne_zero, zpow_natCast]
    field_simp
  rcases quotient_mem (k := k) (by omega) floor.1 floor.2 with ⟨z_low, z_high⟩
  rw [exponent] at low ⊢
  rw [value]
  generalize y / 2 ^ k = z at nearest z_low z_high
  rcases abs_le.mp nearest.distance with ⟨r_low, r_high⟩
  have r_ge : 2 ^ 52 ≤ r := by
    by_contra less
    have : (r : ℚ) + 1 ≤ 2 ^ 52 := by exact_mod_cast (not_le.mp less)
    linarith
  have r_le : r ≤ 2 ^ 53 := by
    by_contra more
    have : (2 : ℚ) ^ 53 + 1 ≤ r := by exact_mod_cast (not_le.mp more)
    linarith
  have first : shiftToTargetExponent Format.binary64 m e accuracy = (em, e + k) := by
    rw [shiftToTargetExponent_wide wide (by omega), k_eq, em_eq, exponent]
  -- rounding up from the greatest significand takes one bit more
  rcases Nat.lt_or_eq_of_le r_le with less | carry
  · have normal : Normal r := ⟨r_ge, less⟩
    refine ⟨r, e + k, by omega, ?_, normal, nearest.covers z_low _, le_rfl, by omega⟩
    simp only [roundWithAccuracy, first, r_eq, shiftToTargetExponent_normal normal low]
    rw [dif_neg (by omega)]
  · subst carry
    refine ⟨2 ^ 52, e + k + 1, by positivity, ?_, ⟨le_rfl, by norm_num⟩,
      nearest.covers_carry z_high _, by omega, le_rfl⟩
    simp only [roundWithAccuracy, first, r_eq, shiftToTargetExponent_carry low]
    rw [dif_neg (by norm_num)]

/-! ### Doubles -/

/-- The bits of a positive double, by its exponent field and its fraction. -/
theorem toNat_packComponents (field : BitVec 11) (fraction : BitVec 52) :
    (packComponents Format.binary64 .positive field fraction).toNat =
      field.toNat * 2 ^ 52 + fraction.toNat := by
  have sign : (Sign.toBitVec .positive ++ field).toNat = field.toNat := by
    rw [BitVec.toNat_append]
    simp [Sign.toBitVec]
  change ((Sign.toBitVec .positive ++ field) ++ fraction).toNat = _
  rw [BitVec.toNat_append, ← Nat.shiftLeft_add_eq_or_of_lt fraction.isLt, sign, Nat.shiftLeft_eq]

/-- The sign of a positive double. -/
theorem unpackSign_packComponents (field : BitVec 11) (fraction : BitVec 52) :
    unpackSign (packComponents Format.binary64 .positive field fraction) = 0#1 := by
  simp only [unpackSign, packComponents, BitVec.extractLsb]
  rw [BitVec.extractLsb'_append_eq_of_le (by omega), BitVec.extractLsb'_append_eq_of_le (by omega)]
  rfl

/-- The bits of a positive normal double. -/
theorem pack_normal {m : Nat} {e : Int} (normal : Normal m) (low : -1074 ≤ e) (high : e ≤ 971)
    (pos : 0 < m) :
    UnpackedFloat.pack Format.binary64 (.finite .positive m e pos) =
      packComponents Format.binary64 .positive (BitVec.ofNat 11 (e + 1075).toNat)
        (BitVec.ofNat 52 m) := by
  have log : m.log2 = 52 := (Nat.log2_eq_iff pos.ne').mpr normal
  have bias : Format.binary64.exponentBias = 1023 := by decide
  have width : Format.binary64.mantissaBits = 53 := rfl
  have field : e + (1023 : Nat) + (52 : Nat) = e + 1075 := by omega
  simp only [UnpackedFloat.pack, bias, width, log, field]
  rw [if_neg (by omega), if_pos trivial]

/-- A float that is a positive normal double, with its significand and its exponent. -/
structure IsDouble (x : Float) (m : Nat) (e : Int) : Prop where
  normal : Normal m
  low : -1074 ≤ e
  high : e ≤ 971
  packed : ∃ pos, x = .ofModel (Float.Model.pack (.finite .positive m e pos))

/-- A double is told by its significand and its exponent. -/
theorem IsDouble.unique {x y : Float} {m : Nat} {e : Int} (x_double : IsDouble x m e)
    (y_double : IsDouble y m e) : x = y := by
  rcases x_double.packed with ⟨_, rfl⟩
  rcases y_double.packed with ⟨_, rfl⟩
  rfl

/-- The double that a float is has the significand and the exponent that it was packed with. -/
theorem IsDouble.unpack {x : Float} {m : Nat} {e : Int} (double : IsDouble x m e) :
    ∃ pos, x.toModel.unpack = .finite .positive m e pos := by
  rcases double with ⟨⟨m_low, m_high⟩, low, high, pos, rfl⟩
  refine ⟨pos, ?_⟩
  have field_eq : (BitVec.ofNat 11 (e + 1075).toNat).toNat = (e + 1075).toNat := by
    rw [BitVec.toNat_ofNat, Nat.mod_eq_of_lt (by omega)]
  have not_max : BitVec.ofNat 11 (e + 1075).toNat ≠ -1#11 := by
    intro same
    have := congrArg BitVec.toNat same
    rw [field_eq] at this
    simp only [BitVec.neg_one_eq_allOnes, BitVec.toNat_allOnes] at this
    omega
  have not_zero : BitVec.ofNat 11 (e + 1075).toNat ≠ 0#11 := by
    intro same
    have := congrArg BitVec.toNat same
    rw [field_eq] at this
    simp only [BitVec.toNat_ofNat] at this
    omega
  have whole : (1#1 ++ BitVec.ofNat 52 m).toNat = m := by
    rw [BitVec.toNat_append, ← Nat.shiftLeft_add_eq_or_of_lt (BitVec.isLt _), BitVec.toNat_ofNat]
    simp only [BitVec.toNat_ofNat, Nat.shiftLeft_eq]
    omega
  change UnpackedFloat.unpack Format.binary64
    (UnpackedFloat.pack Format.binary64 (.finite .positive m e pos)) = _
  rw [pack_normal ⟨m_low, m_high⟩ low high pos, UnpackedFloat.unpack]
  simp only [unpackExponent_packComponents, unpackMantissa_packComponents,
    unpackSign_packComponents, not_max, not_zero, if_false, field_eq, whole]
  have bias : Format.binary64.exponentBias = 1023 := by decide
  rw [UnpackedFloat.finite.injEq, bias]
  exact ⟨rfl, rfl, by omega⟩

/-- A positive normal double taken apart. -/
theorem IsDouble.ofFloat {x : Float} {m : Nat} {e : Int} (double : IsDouble x m e) :
    Binary64.ofFloat x = .finite false m e (m = 2 ^ 52 && e != -1074) := by
  rcases double with ⟨⟨m_low, m_high⟩, low, high, pos, rfl⟩
  have bits : (Float.toBits (.ofModel (Float.Model.pack (.finite .positive m e pos)))).toNat =
      (e + 1075).toNat * 2 ^ 52 + (m - 2 ^ 52) := by
    change (UnpackedFloat.pack Format.binary64 (.finite .positive m e pos)).toNat = _
    rw [pack_normal ⟨m_low, m_high⟩ low high pos, toNat_packComponents, BitVec.toNat_ofNat,
      BitVec.toNat_ofNat]
    omega
  have field : ((e + 1075).toNat * 2 ^ 52 + (m - 2 ^ 52)) / 0x10000000000000 % 0x800 =
      (e + 1075).toNat := by omega
  have fraction : ((e + 1075).toNat * 2 ^ 52 + (m - 2 ^ 52)) % 0x10000000000000 = m - 2 ^ 52 := by
    omega
  have sign : ((e + 1075).toNat * 2 ^ 52 + (m - 2 ^ 52)) / 0x8000000000000000 = 0 := by omega
  simp only [Binary64.ofFloat, Binary64.ofBits, bits, field, fraction, sign]
  rw [if_neg (by omega), if_neg (by omega)]
  have significand : 0x10000000000000 + (m - 2 ^ 52) = m := by omega
  have exponent : ((e + 1075).toNat : Int) - 1075 = e := by omega
  have atPower : decide (m - 2 ^ 52 = 0) = decide (m = 2 ^ 52) := decide_eq_decide.mpr (by omega)
  have above : ((e + 1075).toNat != 1) = (e != -1074) := by
    rw [Bool.eq_iff_iff, bne_iff_ne, bne_iff_ne]
    omega
  rw [significand, exponent, atPower, above]
  rfl

/-! ### Operations -/

/-- A float that an operation makes is the double of its exact result, if that is neither too small
nor too great. -/
theorem isDouble_of_round {x : Float} {m : Nat} {e : Int} {accuracy : Accuracy} {y : ℚ}
    (x_eq : x = .ofModel (Float.Model.pack
      (roundWithAccuracy Format.binary64 .positive m e accuracy)))
    (wide : 52 ≤ m.log2) (low : -1074 ≤ e + (m.log2 - 52)) (high : e + (m.log2 - 52) ≤ 970)
    (shows_y : Shows (.ofMantissaAndAccuracy m accuracy) y) :
    ∃ r E, IsDouble x r E ∧ Covers r E (y * 2 ^ e) := by
  rcases roundWithAccuracy_covers wide low shows_y .positive with
    ⟨r, E, pos, round_eq, normal, covers, least, greatest⟩
  exact ⟨r, E, ⟨normal, by omega, by omega, pos, by rw [x_eq, round_eq]⟩, covers⟩

/-- Shifting a significand to the left adds places. -/
theorem log2_shiftLeft {m : Nat} (pos : 0 < m) (k : Nat) : (m <<< k).log2 = m.log2 + k := by
  rw [Nat.shiftLeft_eq]
  refine (Nat.log2_eq_iff (by positivity)).mpr ⟨?_, ?_⟩
  · rw [Nat.pow_add]
    exact Nat.mul_le_mul_right _ (Nat.log2_self_le pos.ne')
  · rw [show m.log2 + k + 1 = m.log2 + 1 + k by omega, Nat.pow_add]
    exact Nat.mul_lt_mul_of_pos_right Nat.lt_log2_self (by positivity)

/-- A positive number of 64 bits becomes its double. -/
theorem isDouble_toFloat {n : UInt64} (pos : 0 < n.toNat) :
    ∃ m e, IsDouble n.toFloat m e ∧ Covers m e n.toNat := by
  have bound : n.toNat.log2 < 64 := (Nat.log2_lt pos.ne').mpr n.toNat_lt
  have amount : (0 - max ((n.toNat.log2 : Int) + 0 - 52) (-1074)).toNat = 52 - n.toNat.log2 := by
    omega
  have log := log2_shiftLeft pos (52 - n.toNat.log2)
  have x_eq : n.toFloat = .ofModel (Float.Model.pack (roundWithAccuracy Format.binary64 .positive
      (n.toNat <<< (52 - n.toNat.log2)) (0 - (52 - n.toNat.log2 : Nat)) .exact)) := by
    change Float.ofModel
      (Float.Model.pack (normalize Format.binary64 (n.toNat : Int) 0 .positive)) = _
    unfold UnpackedFloat.normalize
    rw [Int.compare_eq_gt.mpr (by omega)]
    simp only [Int.toNat_natCast, UnpackedFloat.round, decreaseExponent, targetExponent_eq, amount]
  rcases isDouble_of_round x_eq (by omega) (by omega) (by omega) (shows_exact _) with
    ⟨m, e, double, covers⟩
  refine ⟨m, e, double, ?_⟩
  have value : ((n.toNat <<< (52 - n.toNat.log2) : Nat) : ℚ) *
      2 ^ ((0 : Int) - (52 - n.toNat.log2 : Nat)) = n.toNat := by
    rw [Nat.shiftLeft_eq, Nat.cast_mul, Nat.cast_pow, Nat.cast_ofNat, zero_sub, zpow_neg,
      zpow_natCast]
    field_simp
  rwa [value] at covers

/-- A product of doubles is the double of the product of their values. -/
theorem isDouble_mul {x x' : Float} {m m' : Nat} {e e' : Int} (double : IsDouble x m e)
    (double' : IsDouble x' m' e') (low : -1000 ≤ e + e') (high : e + e' ≤ 900) :
    ∃ r E, IsDouble (x * x') r E ∧ Covers r E (m * 2 ^ e * (m' * 2 ^ e')) := by
  rcases double.unpack with ⟨pos, x_eq⟩
  rcases double'.unpack with ⟨pos', x'_eq⟩
  have round_eq : x * x' = .ofModel (Float.Model.pack
      (roundWithAccuracy Format.binary64 .positive (m * m') (e + e') .exact)) := by
    change Float.ofModel (Float.Model.pack
      (UnpackedFloat.mul Format.binary64 x.toModel.unpack x'.toModel.unpack)) = _
    rw [x_eq, x'_eq]
    rfl
  have least : 2 ^ 52 ≤ m * m' :=
    double.normal.1.trans (Nat.le_mul_of_pos_right m pos')
  have greatest : m * m' < 2 ^ 106 :=
    calc m * m' < 2 ^ 53 * 2 ^ 53 :=
          Nat.mul_lt_mul'' double.normal.2 double'.normal.2
      _ = 2 ^ 106 := by norm_num
  have nonzero : m * m' ≠ 0 := (Nat.mul_pos pos pos').ne'
  have wide : 52 ≤ (m * m').log2 := (Nat.le_log2 nonzero).mpr least
  have narrow : (m * m').log2 < 106 := (Nat.log2_lt nonzero).mpr greatest
  rcases isDouble_of_round round_eq wide (by omega) (by omega) (shows_exact _) with
    ⟨r, E, product, covers⟩
  refine ⟨r, E, product, ?_⟩
  have value : ((m * m' : Nat) : ℚ) * 2 ^ (e + e') = m * 2 ^ e * (m' * 2 ^ e') := by
    rw [Nat.cast_mul, zpow_add₀ two_ne_zero]
    ring
  rwa [value] at covers

/-- A quotient of doubles is the double of the quotient of their values. -/
theorem isDouble_div {x x' : Float} {m m' : Nat} {e e' : Int} (double : IsDouble x m e)
    (double' : IsDouble x' m' e') (low : -1000 ≤ e - e') (high : e - e' ≤ 900) :
    ∃ r E, IsDouble (x / x') r E ∧ Covers r E (m * 2 ^ e / (m' * 2 ^ e')) := by
  rcases double.unpack with ⟨pos, x_eq⟩
  rcases double'.unpack with ⟨pos', x'_eq⟩
  have log : m.log2 = 52 := (Nat.log2_eq_iff pos.ne').mpr double.normal
  have log' : m'.log2 = 52 := (Nat.log2_eq_iff pos'.ne').mpr double'.normal
  have width : Format.binary64.mantissaBits = 53 := rfl
  have minimum : Format.binary64.minExponent = -1074 := by decide
  have target : min (e - e') (Format.binary64.targetExponent
      (totalExponent m e - totalExponent m' e')) = e - e' - 53 := by
    simp only [Format.targetExponent, totalExponent, log, log', width, minimum]
    omega
  have amount : (e - e' - (e - e' - 53)).toNat = 53 := by omega
  have round_eq : x / x' = .ofModel (Float.Model.pack (roundWithAccuracy Format.binary64 .positive
      (m <<< 53 / m') (e - e' - 53) (accuracyOfFraction (m <<< 53 % m') m'))) := by
    change Float.ofModel (Float.Model.pack
      (UnpackedFloat.div Format.binary64 x.toModel.unpack x'.toModel.unpack)) = _
    rw [x_eq, x'_eq]
    simp only [UnpackedFloat.div, divCore, target, amount]
    rfl
  have least : 2 ^ 52 ≤ m <<< 53 / m' := by
    rw [Nat.le_div_iff_mul_le pos', Nat.shiftLeft_eq]
    exact Nat.mul_le_mul double.normal.1 double'.normal.2.le
  have greatest : m <<< 53 / m' < 2 ^ 54 := by
    rw [Nat.div_lt_iff_lt_mul pos', Nat.shiftLeft_eq]
    calc m * 2 ^ 53 < 2 ^ 53 * 2 ^ 53 := Nat.mul_lt_mul_of_pos_right double.normal.2 (by norm_num)
      _ = 2 ^ 54 * 2 ^ 52 := by norm_num
      _ ≤ 2 ^ 54 * m' := Nat.mul_le_mul_left _ double'.normal.1
  have nonzero : m <<< 53 / m' ≠ 0 := by
    have : 0 < 2 ^ 52 := by norm_num
    omega
  have wide : 52 ≤ (m <<< 53 / m').log2 := (Nat.le_log2 nonzero).mpr least
  have narrow : (m <<< 53 / m').log2 < 54 := (Nat.log2_lt nonzero).mpr greatest
  rcases isDouble_of_round round_eq wide (by omega) (by omega)
    (shows_fraction (Nat.mod_lt _ pos')) with ⟨r, E, quotient, covers⟩
  refine ⟨r, E, quotient, ?_⟩
  have m'_pos : (0 : ℚ) < m' := by exact_mod_cast pos'
  have whole : ((m <<< 53 / m' : Nat) : ℚ) + ((m <<< 53 % m' : Nat) : ℚ) / m' = m * 2 ^ 53 / m' := by
    rw [eq_div_iff m'_pos.ne', add_mul, div_mul_cancel₀ _ m'_pos.ne', mul_comm]
    have parts : m' * (m <<< 53 / m') + m <<< 53 % m' = m * 2 ^ 53 := by
      rw [Nat.div_add_mod, Nat.shiftLeft_eq]
    exact_mod_cast parts
  have value : (m : ℚ) * 2 ^ 53 / m' * 2 ^ (e - e' - 53) = m * 2 ^ e / (m' * 2 ^ e') := by
    have power : (2 : ℚ) ^ e' ≠ 0 := (zpow_pos two_pos e').ne'
    rw [zpow_sub₀ two_ne_zero, zpow_sub₀ two_ne_zero]
    norm_num
    field_simp
  rwa [whole, value] at covers

/-! ### Sizes -/

/-- The numbers of a normal double lie between powers of two. -/
theorem Covers.value_mem {m : Nat} (normal : Normal m) {e : Int} {v : ℚ} (covers : Covers m e v) :
    (2 : ℚ) ^ (e + 51) < v ∧ v < 2 ^ (e + 53) := by
  have power : (0 : ℚ) < 2 ^ e := zpow_pos two_pos e
  have least : (2 : ℚ) ^ 52 ≤ m := by exact_mod_cast normal.1
  have greatest : (m : ℚ) + 1 ≤ 2 ^ 53 := by exact_mod_cast normal.2
  constructor
  · refine lt_of_lt_of_le ?_ covers.low
    rw [zpow_add₀ two_ne_zero, mul_comm]
    refine mul_lt_mul_of_pos_right ?_ power
    calc (2 : ℚ) ^ (51 : Int) < 2 ^ 52 - 1 / 2 := by norm_num
      _ ≤ m - below m := by linarith [(below_mem m).2]
  · refine covers.high.trans_lt ?_
    rw [zpow_add₀ two_ne_zero, mul_comm]
    refine mul_lt_mul_of_pos_left ?_ power
    calc (m : ℚ) + 1 / 2 < 2 ^ 53 := by linarith
      _ = 2 ^ (53 : Int) := by norm_num

/-- A number between powers of two bounds the exponent of its double. -/
theorem Covers.exponent_mem {m : Nat} (normal : Normal m) {e a b : Int} {v : ℚ}
    (covers : Covers m e v) (low : (2 : ℚ) ^ a ≤ v) (high : v ≤ 2 ^ b) :
    a - 52 ≤ e ∧ e ≤ b - 52 := by
  rcases covers.value_mem normal with ⟨value_low, value_high⟩
  have least := (zpow_lt_zpow_iff_right₀ (one_lt_two (α := ℚ))).mp (low.trans_lt value_high)
  have greatest := (zpow_lt_zpow_iff_right₀ (one_lt_two (α := ℚ))).mp (value_low.trans_le high)
  omega

/-- A double with the exponent of a number of 64 bits lies between one and such a number. -/
theorem IsDouble.value_mem {x : Float} {m : Nat} {e : Int} (double : IsDouble x m e) (low : -52 ≤ e)
    (high : e ≤ 12) : (1 : ℚ) ≤ m * 2 ^ e ∧ (m : ℚ) * 2 ^ e < 2 ^ (65 : Int) := by
  have least : (2 : ℚ) ^ 52 ≤ m := by exact_mod_cast double.normal.1
  have greatest : (m : ℚ) < 2 ^ 53 := by exact_mod_cast double.normal.2
  constructor
  · calc (1 : ℚ) = 2 ^ 52 * 2 ^ (-52 : Int) := by norm_num
      _ ≤ m * 2 ^ e := by
        gcongr
        exact one_le_two
  · calc (m : ℚ) * 2 ^ e ≤ m * 2 ^ (12 : Int) := by
          gcongr
          exact one_le_two
      _ < 2 ^ 53 * 2 ^ (12 : Int) := by gcongr
      _ = 2 ^ (65 : Int) := by norm_num

/-- The exponent of a positive number of 64 bits. -/
theorem IsDouble.exponent_mem_of_toFloat {n : UInt64} (pos : 0 < n.toNat) {m : Nat} {e : Int}
    (double : IsDouble n.toFloat m e) (covers : Covers m e n.toNat) : -52 ≤ e ∧ e ≤ 12 := by
  have low : (2 : ℚ) ^ (0 : Int) ≤ n.toNat := by
    rw [zpow_zero]
    exact_mod_cast pos
  have high : (n.toNat : ℚ) ≤ 2 ^ (64 : Int) := by
    have bound : (n.toNat : ℚ) ≤ (2 : ℚ) ^ 64 := by exact_mod_cast n.toNat_lt.le
    exact_mod_cast bound
  have := covers.exponent_mem double.normal low high
  omega

/-! ### Exact doubles -/

/-- A positive number of at most 53 bits is a double. -/
theorem exists_normal {n : Nat} (pos : 0 < n) (small : n ≤ 2 ^ 53) :
    ∃ m e, Normal m ∧ (m : ℚ) * 2 ^ (e : Int) = n := by
  rcases Nat.lt_or_eq_of_le small with less | same
  · have log : n.log2 < 53 := (Nat.log2_lt pos.ne').mpr less
    refine ⟨n <<< (52 - n.log2), -(52 - n.log2 : Nat), ?_, ?_⟩
    · refine (Nat.log2_eq_iff (Nat.shiftLeft_pos_iff.mpr pos).ne').mp ?_
      rw [log2_shiftLeft pos]
      omega
    · rw [Nat.shiftLeft_eq, Nat.cast_mul, Nat.cast_pow, Nat.cast_ofNat, zpow_neg, zpow_natCast]
      field_simp
  · refine ⟨2 ^ 52, 1, ⟨le_rfl, by norm_num⟩, ?_⟩
    rw [same]
    norm_num

/-- A positive number of at most 53 bits becomes itself. -/
theorem isDouble_toFloat_exact {n : UInt64} (pos : 0 < n.toNat) (small : n.toNat ≤ 2 ^ 53) :
    ∃ m e, IsDouble n.toFloat m e ∧ (m : ℚ) * 2 ^ e = n.toNat ∧ -52 ≤ e ∧ e ≤ 12 := by
  rcases isDouble_toFloat pos with ⟨m, e, double, covers⟩
  rcases exists_normal pos small with ⟨m', e', normal', value⟩
  have self := covers_self m' e'
  rw [value] at self
  rcases covers.unique double.normal normal' self with ⟨rfl, rfl⟩
  exact ⟨m, e, double, value, double.exponent_mem_of_toFloat pos covers⟩

/-- The significand of a power of ten, if it is a double. -/
def tenSignificand (k : Nat) : Nat := 10 ^ k * 2 ^ 52 / 2 ^ (10 ^ k).log2

/-- Up to the twenty-second, powers of ten are doubles. -/
theorem isDouble_power {k : Nat} (small : k ≤ 22) :
    ∃ m e, IsDouble (Float.ofScientific 1 false k) m e ∧ (m : ℚ) * 2 ^ e = 10 ^ k ∧
      -52 ≤ e ∧ e ≤ 21 := by
  have all : ∀ k : Fin 23,
      (2 ^ 52 ≤ tenSignificand k ∧ tenSignificand k < 2 ^ 53) ∧
      tenSignificand k * 2 ^ (10 ^ k.val).log2 = 10 ^ k.val * 2 ^ 52 ∧ (10 ^ k.val).log2 ≤ 73 ∧
      if pos : 0 < tenSignificand k then
        Float.ofScientific 1 false k = .ofModel (Float.Model.pack
          (.finite .positive (tenSignificand k) ((10 ^ k.val).log2 - 52) pos))
      else False := by
    decide +kernel
  rcases all ⟨k, by omega⟩ with ⟨normal, exact_value, log, packed⟩
  simp only at normal exact_value log packed
  split at packed
  case isFalse => exact packed.elim
  case isTrue pos =>
    refine ⟨tenSignificand k, (10 ^ k).log2 - 52, ⟨normal, by omega, by omega, pos, packed⟩, ?_,
      by omega, by omega⟩
    have value : (tenSignificand k : ℚ) * 2 ^ (10 ^ k).log2 = 10 ^ k * 2 ^ 52 := by
      exact_mod_cast exact_value
    rw [zpow_sub₀ two_ne_zero, zpow_natCast, ← mul_div_assoc, value]
    norm_num

/-- A normal double is not infinite. -/
theorem IsDouble.isInf {x : Float} {m : Nat} {e : Int} (double : IsDouble x m e) :
    x.isInf = false := by
  rcases double.unpack with ⟨pos, unpacked⟩
  change x.toModel.unpack.isInf = false
  rw [unpacked]
  rfl

end Occupancy.Decimal
