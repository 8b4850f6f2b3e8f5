/-
Module: Occupancy.Proofs.ShortestDigits
Purpose: The shortest decimal of a double is one of the numbers that the double stands for.
Main exports: decimalValue, span_holds_iff, span_order_mem, shortest_covers
-/
import Mathlib
import Occupancy.Decimal.Shortest
import Occupancy.Proofs.DecimalText
import Occupancy.Proofs.DoubleRounding

namespace Occupancy.Decimal

/-!
The search for the digits of a double works on whole numbers over common denominators. Here these
are read as the numbers that they are, so that the span of a double is the same as the numbers that
are rounded to it. A grid of seventeen digits is finer than that span, so one of the two grid points
around the double lies in it and the search does not fail.
-/

/-- The number that a decimal is. -/
def decimalValue (d : Numeral) : ℚ := d.digits * 10 ^ d.exponent

/-- The span of a normal double above the least ones. -/
abbrev span (m : Nat) (e : Int) : Span := Span.of m e (m = 2 ^ 52)

/-! ### The span -/

/-- The parts of a power of ten. -/
theorem powerOfTen_spec (e : Int) :
    (0 : ℚ) < (powerOfTen e).2 ∧ ((powerOfTen e).1 : ℚ) / (powerOfTen e).2 = 10 ^ e := by
  cases e with
  | ofNat n =>
    constructor
    · simp [powerOfTen]
    · simp [powerOfTen]
  | negSucc n =>
    constructor
    · simp [powerOfTen]
    · simp [powerOfTen, zpow_negSucc]

/-- The numerators of a span over their denominator. -/
theorem span_spec {m : Nat} (normal : Normal m) (e : Int) :
    (0 : ℚ) < (span m e).den ∧ ((span m e).value : ℚ) / (span m e).den = m * 2 ^ e ∧
      ((span m e).low : ℚ) / (span m e).den = (m - below m) * 2 ^ e ∧
      ((span m e).high : ℚ) / (span m e).den = (m + 1 / 2) * 2 ^ e := by
  have large : 2 ≤ 4 * m := by
    have := normal.1
    omega
  have low : ((if m = 2 ^ 52 then 4 * m - 1 else 4 * m - 2 : Nat) : ℚ) = 4 * (m - below m) := by
    unfold below
    split
    · rw [Nat.cast_sub (by omega)]
      push_cast
      ring
    · rw [Nat.cast_sub large]
      push_cast
      ring
  have quarter : (2 : ℚ) ^ e = 2 ^ (e - 2) * 4 := by
    rw [zpow_sub₀ two_ne_zero]
    norm_num
  simp only [span, Span.of, decide_eq_true_eq]
  rw [quarter]
  cases e - 2 with
  | ofNat n =>
    simp only [Nat.cast_mul, Nat.pow_eq, Nat.cast_pow, Nat.cast_ofNat, low, Nat.cast_one, div_one,
      Int.ofNat_eq_natCast, zpow_natCast, one_pos, true_and]
    exact ⟨by ring, by ring, by push_cast; ring⟩
  | negSucc n =>
    simp only [Nat.cast_mul, Nat.pow_eq, Nat.cast_pow, Nat.cast_ofNat, low, zpow_negSucc]
    exact ⟨by positivity, by ring, by ring, by push_cast; ring⟩

/-- A decimal reads back as a double if it is one of the numbers that the double stands for. -/
theorem span_holds_iff {m : Nat} (normal : Normal m) (e : Int) (d : Numeral) :
    (span m e).holds d = true ↔ Covers m e (decimalValue d) := by
  rcases span_spec normal e with ⟨den_pos, -, low_eq, high_eq⟩
  rcases powerOfTen_spec d.exponent with ⟨ten_pos, ten_eq⟩
  have value : decimalValue d =
      d.digits * ((powerOfTen d.exponent).1 / (powerOfTen d.exponent).2 : ℚ) := by
    rw [ten_eq, decimalValue]
  have closed : (span m e).closed = decide (m % 2 = 0) := by
    simp only [span, Span.of]
    cases e - 2 <;> rfl
  -- a comparison of numerators is one of numbers
  have scale : (0 : ℚ) < (powerOfTen d.exponent).2 * (span m e).den := mul_pos ten_pos den_pos
  have numerator (a : Nat) : ((a * (powerOfTen d.exponent).2 : Nat) : ℚ) =
      a / (span m e).den * ((powerOfTen d.exponent).2 * (span m e).den) := by
    push_cast
    field_simp
  have decimal : ((d.digits * (powerOfTen d.exponent).1 * (span m e).den : Nat) : ℚ) =
      decimalValue d * ((powerOfTen d.exponent).2 * (span m e).den) := by
    rw [value]
    push_cast
    field_simp
  have low_le : (span m e).low * (powerOfTen d.exponent).2 ≤
      d.digits * (powerOfTen d.exponent).1 * (span m e).den ↔
        (m - below m) * 2 ^ e ≤ decimalValue d := by
    rw [← Nat.cast_le (α := ℚ), numerator, decimal, low_eq, mul_le_mul_iff_of_pos_right scale]
  have low_lt : (span m e).low * (powerOfTen d.exponent).2 <
      d.digits * (powerOfTen d.exponent).1 * (span m e).den ↔
        (m - below m) * 2 ^ e < decimalValue d := by
    rw [← Nat.cast_lt (α := ℚ), numerator, decimal, low_eq, mul_lt_mul_iff_of_pos_right scale]
  have high_le : d.digits * (powerOfTen d.exponent).1 * (span m e).den ≤
      (span m e).high * (powerOfTen d.exponent).2 ↔ decimalValue d ≤ (m + 1 / 2) * 2 ^ e := by
    rw [← Nat.cast_le (α := ℚ), numerator, decimal, high_eq, mul_le_mul_iff_of_pos_right scale]
  have high_lt : d.digits * (powerOfTen d.exponent).1 * (span m e).den <
      (span m e).high * (powerOfTen d.exponent).2 ↔ decimalValue d < (m + 1 / 2) * 2 ^ e := by
    rw [← Nat.cast_lt (α := ℚ), numerator, decimal, high_eq, mul_lt_mul_iff_of_pos_right scale]
  simp only [Span.holds, closed, decide_eq_true_eq]
  split
  case isTrue even =>
    rw [Bool.and_eq_true, decide_eq_true_eq, decide_eq_true_eq, low_le, high_le]
    exact ⟨fun inside => ⟨inside.1, inside.2, fun odd => by omega⟩,
      fun covers => ⟨covers.low, covers.high⟩⟩
  case isFalse odd =>
    rw [Bool.and_eq_true, decide_eq_true_eq, decide_eq_true_eq, low_lt, high_lt]
    exact ⟨fun inside => ⟨inside.1.le, inside.2.le, fun _ => inside⟩,
      fun covers => covers.inside (by omega)⟩

/-! ### The order -/

/-- How many digits a number has, told by powers of ten. -/
theorem length_digits_mem {n : Nat} (pos : 0 < n) :
    10 ^ ((digits n).length - 1) ≤ n ∧ n < 10 ^ (digits n).length := by
  have length_pos : 0 < (digits n).length := List.length_pos_of_ne_nil (digits_ne_nil n)
  refine ⟨?_, (length_digits_le_iff length_pos).mp le_rfl⟩
  rcases Nat.eq_zero_or_pos ((digits n).length - 1) with zero | more
  · rw [zero, pow_zero]
    exact pos
  · by_contra less
    have := (length_digits_le_iff more).mpr (not_le.mp less)
    omega

/-- A normal double lies between the power of ten of its order and the next one. -/
theorem span_order_mem {m : Nat} (normal : Normal m) {e : Int} (large : -117 ≤ e) :
    (10 : ℚ) ^ (span m e).order ≤ m * 2 ^ e ∧ (m : ℚ) * 2 ^ e < 10 ^ ((span m e).order + 1) := by
  rcases span_spec normal e with ⟨den_pos, value_eq, -, -⟩
  generalize n_eq : (span m e).value * Nat.pow 10 deepest / (span m e).den = n
  have den_nat : 0 < (span m e).den := by exact_mod_cast den_pos
  -- the numerator is the whole part of the double times the deepest power
  have deep : (0 : ℚ) < 10 ^ deepest := by positivity
  have deep_cast : ((Nat.pow 10 deepest : Nat) : ℚ) = 10 ^ deepest := by
    rw [Nat.pow_eq, Nat.cast_pow, Nat.cast_ofNat]
  have low : (n : ℚ) ≤ m * 2 ^ e * 10 ^ deepest := by
    rw [← value_eq, div_mul_eq_mul_div, le_div_iff₀ den_pos, ← n_eq, ← deep_cast, ← Nat.cast_mul,
      ← Nat.cast_mul, Nat.cast_le]
    exact Nat.div_mul_le_self _ _
  have high : m * 2 ^ e * 10 ^ deepest < (n : ℚ) + 1 := by
    rw [← value_eq, div_mul_eq_mul_div, div_lt_iff₀ den_pos, ← n_eq, ← deep_cast, ← Nat.cast_mul,
      ← Nat.cast_succ, ← Nat.cast_mul, Nat.cast_lt, Nat.mul_comm (_ + 1)]
    exact Nat.lt_mul_div_succ _ den_nat
  have pos : 0 < n := by
    have one_le : (1 : ℚ) ≤ m * 2 ^ e * 10 ^ deepest :=
      calc (1 : ℚ) ≤ 2 ^ 52 * 2 ^ (-117 : Int) * 10 ^ 20 := by norm_num
        _ ≤ m * 2 ^ e * 10 ^ deepest := by
          gcongr
          · exact_mod_cast normal.1
          · exact one_le_two
          · norm_num
          · decide
    have : (0 : ℚ) < n := by linarith
    exact_mod_cast this
  rcases length_digits_mem pos with ⟨least, greatest⟩
  have length_pos : 0 < (digits n).length := List.length_pos_of_ne_nil (digits_ne_nil n)
  have order : (span m e).order = ((digits n).length - 1 : Nat) - (deepest : Int) := by
    rw [Span.order, n_eq]
    omega
  have least_cast : (10 : ℚ) ^ ((digits n).length - 1) ≤ n := by exact_mod_cast least
  have greatest_cast : (n : ℚ) + 1 ≤ 10 ^ (digits n).length := by exact_mod_cast greatest
  constructor
  · rw [order, zpow_sub₀ (by norm_num), zpow_natCast, zpow_natCast, div_le_iff₀ deep]
    exact least_cast.trans low
  · rw [order, show ((((digits n).length - 1 : Nat) : Int) - (deepest : Int) + 1) =
      ((digits n).length : Int) - deepest by omega, zpow_sub₀ (by norm_num), zpow_natCast,
      zpow_natCast, lt_div_iff₀ deep]
    exact high.trans_le greatest_cast

/-! ### The grid points -/

/-- A double lies between the grid point that is tried below it and the next one. -/
theorem span_floor_mem {m : Nat} (normal : Normal m) (e k : Int) :
    decimalValue ((span m e).floor k) ≤ m * 2 ^ e ∧
      m * 2 ^ e < decimalValue ⟨((span m e).floor k).digits + 1, k⟩ := by
  rcases span_spec normal e with ⟨den_pos, value_eq, -, -⟩
  rcases powerOfTen_spec k with ⟨ten_pos, ten_eq⟩
  have num_pos : (0 : ℚ) < (powerOfTen k).1 := by
    have : (0 : ℚ) < (powerOfTen k).1 / (powerOfTen k).2 := by
      rw [ten_eq]
      exact zpow_pos (by norm_num) k
    exact (div_pos_iff_of_pos_right ten_pos).mp this
  have grid : 0 < (span m e).den * (powerOfTen k).1 := by
    have : (0 : ℚ) < (span m e).den * (powerOfTen k).1 := mul_pos den_pos num_pos
    exact_mod_cast this
  have parts (a : ℚ) : a * ((powerOfTen k).1 / (powerOfTen k).2) =
      a * ((span m e).den * (powerOfTen k).1) / ((span m e).den * (powerOfTen k).2) := by
    field_simp
  have double : ((span m e).value : ℚ) / (span m e).den =
      (span m e).value * (powerOfTen k).2 / ((span m e).den * (powerOfTen k).2) := by
    field_simp
  have scale : (0 : ℚ) < (span m e).den * (powerOfTen k).2 := mul_pos den_pos ten_pos
  simp only [decimalValue, Span.floor, ← value_eq, ← ten_eq, parts, double]
  rw [div_le_div_iff_of_pos_right scale, div_lt_div_iff_of_pos_right scale]
  constructor
  · exact_mod_cast Nat.div_mul_le_self _ _
  · have := Nat.lt_mul_div_succ ((span m e).value * (powerOfTen k).2) grid
    rw [Nat.mul_comm ((span m e).den * _)] at this
    exact_mod_cast this

/-- A grid point has the exponent of its grid. -/
theorem exponent_floor (s : Span) (k : Int) : (s.floor k).exponent = k := rfl

/-- From one grid point to the next it is a power of ten. -/
theorem decimalValue_floor_succ (s : Span) (k : Int) :
    decimalValue ⟨(s.floor k).digits + 1, k⟩ - decimalValue (s.floor k) = 10 ^ k := by
  rw [decimalValue, decimalValue, exponent_floor]
  push_cast
  ring

/-- The better of two grid points is one of them, and reads back. -/
theorem nearest?_eq_some {s : Span} {k : Int} {d : Numeral} (found : s.nearest? k = some d) :
    s.holds d = true ∧ d.exponent = k ∧
      (d.digits = (s.floor k).digits ∨ d.digits = (s.floor k).digits + 1) := by
  unfold Span.nearest? at found
  simp only at found
  split at found
  case h_1 down up =>
    split at found
    case isTrue => cases found; exact ⟨down, rfl, .inl rfl⟩
    case isFalse =>
      split at found
      case isTrue => cases found; exact ⟨up, rfl, .inr rfl⟩
      case isFalse =>
        split at found
        case isTrue => cases found; exact ⟨down, rfl, .inl rfl⟩
        case isFalse => cases found; exact ⟨up, rfl, .inr rfl⟩
  case h_2 down _ => cases found; exact ⟨down, rfl, .inl rfl⟩
  case h_3 _ up => cases found; exact ⟨up, rfl, .inr rfl⟩
  case h_4 => cases found

/-- If no grid point is found, neither of the two reads back. -/
theorem nearest?_eq_none {s : Span} {k : Int} (none_found : s.nearest? k = none) :
    s.holds (s.floor k) = false ∧ s.holds ⟨(s.floor k).digits + 1, k⟩ = false := by
  unfold Span.nearest? at none_found
  simp only at none_found
  split at none_found
  case h_1 => split_ifs at none_found
  case h_2 => cases none_found
  case h_3 => cases none_found
  case h_4 down up => exact ⟨down, up⟩

/-- The points of a grid of seventeen digits are closer together than the ends of the numbers of a
double. -/
theorem gap_lt {m : Nat} (normal : Normal m) {e k : Int} (order_le : (10 : ℚ) ^ k ≤ m * 2 ^ e) :
    (10 : ℚ) ^ (k - 16) < (below m + 1 / 2) * 2 ^ e := by
  have power : (0 : ℚ) < 2 ^ e := zpow_pos two_pos e
  have fine : (10 : ℚ) ^ (k - 16) = 10 ^ k / 10 ^ 16 := by
    rw [zpow_sub₀ (by norm_num)]
    norm_num
  rw [fine, div_lt_iff₀ (by norm_num)]
  refine order_le.trans_lt ?_
  rcases eq_or_ne m (2 ^ 52) with atPower | other
  · rw [below, if_pos atPower, atPower, mul_right_comm]
    refine mul_lt_mul_of_pos_right ?_ power
    norm_num
  · rw [below, if_neg other, mul_right_comm]
    refine mul_lt_mul_of_pos_right ?_ power
    calc (m : ℚ) < 2 ^ 53 := by exact_mod_cast normal.2
      _ < _ := by norm_num

/-- If two numbers around a double are closer together than the ends of its numbers, it stands for
one of them. -/
theorem covers_or_covers {m : Nat} {e : Int} {a b : ℚ} (low : a ≤ m * 2 ^ e) (high : m * 2 ^ e < b)
    (close : b - a < (below m + 1 / 2) * 2 ^ e) : Covers m e a ∨ Covers m e b := by
  have power : (0 : ℚ) < 2 ^ e := zpow_pos two_pos e
  have below_pos : 0 < below m := by linarith [(below_mem m).1]
  have low_lt : (m - below m) * (2 : ℚ) ^ e < m * 2 ^ e :=
    mul_lt_mul_of_pos_right (by linarith) power
  have lt_high : (m : ℚ) * 2 ^ e < (m + 1 / 2) * 2 ^ e :=
    mul_lt_mul_of_pos_right (by linarith) power
  rcases lt_or_ge ((m - below m) * 2 ^ e) a with inside | outside
  · exact .inl ⟨inside.le, (low.trans_lt lt_high).le, fun _ => ⟨inside, low.trans_lt lt_high⟩⟩
  · have inside : b < (m + 1 / 2) * 2 ^ e := by linarith
    exact .inr ⟨(low_lt.trans high).le, inside.le, fun _ => ⟨low_lt.trans high, inside⟩⟩

/-- A grid of seventeen digits has a point that reads back. -/
theorem nearest?_isSome {m : Nat} (normal : Normal m) {e : Int} (large : -117 ≤ e) :
    ((span m e).nearest? ((span m e).order - 16)).isSome := by
  have gap := gap_lt normal (span_order_mem normal large).1
  generalize (span m e).order - 16 = k at gap ⊢
  rw [Option.isSome_iff_ne_none]
  intro none_found
  rcases nearest?_eq_none none_found with ⟨down_out, up_out⟩
  rcases span_floor_mem normal e k with ⟨down_le, lt_up⟩
  have close := (decimalValue_floor_succ (span m e) k).trans_lt gap
  rcases covers_or_covers down_le lt_up close with down | up
  · rw [(span_holds_iff normal e _).mpr down] at down_out
    cases down_out
  · rw [(span_holds_iff normal e _).mpr up] at up_out
    cases up_out

/-! ### The search -/

/-- The search finds what some grid has. -/
theorem search_eq_some {s : Span} {n : Nat} {k : Int} {d : Numeral}
    (found : s.search n k = some d) :
    ∃ j < n, s.nearest? (k - j) = some d := by
  induction n generalizing k with
  | zero => cases found
  | succ n inductionHypothesis =>
    rw [Span.search, Option.orElse_eq_orElse] at found
    cases here : s.nearest? k with
    | some d' =>
      rw [here] at found
      refine ⟨0, Nat.zero_lt_succ n, ?_⟩
      rw [Nat.cast_zero, sub_zero, here]
      exact found
    | none =>
      rw [here] at found
      rcases inductionHypothesis found with ⟨j, small, later⟩
      refine ⟨j + 1, Nat.succ_lt_succ small, ?_⟩
      rw [← later]
      congr 1
      omega

/-- The search does not fail if some grid has a point. -/
theorem search_isSome {s : Span} {n j : Nat} {k : Int} (small : j < n)
    (there : (s.nearest? (k - j)).isSome) : (s.search n k).isSome := by
  induction n generalizing j k with
  | zero => cases small
  | succ n inductionHypothesis =>
    rw [Span.search]
    cases here : s.nearest? k with
    | some d => rfl
    | none =>
      rcases j with _ | j
      · rw [Nat.cast_zero, sub_zero, here] at there
        cases there
      · refine inductionHypothesis (Nat.lt_of_succ_lt_succ small) ?_
        rw [show k - 1 - (j : Int) = k - (j + 1 : Nat) by omega]
        exact there

/-- What is found has as many digits as were tried, if it is not the next power of ten. -/
theorem digits_le_of_search {m : Nat} (normal : Normal m) {e : Int} (large : -117 ≤ e) {n : Nat}
    {d : Numeral} (found : (span m e).search n (span m e).order = some d) :
    Covers m e (decimalValue d) ∧ d.digits ≤ 10 ^ n ∧ (span m e).order - n < d.exponent := by
  rcases search_eq_some found with ⟨j, small, here⟩
  rcases nearest?_eq_some here with ⟨back, exponent, digits_eq⟩
  refine ⟨(span_holds_iff normal e d).mp back, ?_, by omega⟩
  have below_next := (span_floor_mem normal e ((span m e).order - j)).1.trans_lt
    (span_order_mem normal large).2
  have power : (0 : ℚ) < 10 ^ ((span m e).order - j) := zpow_pos (by norm_num) _
  have next : (10 : ℚ) ^ ((span m e).order + 1) =
      10 ^ (j + 1) * 10 ^ ((span m e).order - j) := by
    rw [← zpow_natCast, ← zpow_add₀ (by norm_num)]
    congr 1
    push_cast
    ring
  have floor_exponent : ((span m e).floor ((span m e).order - j)).exponent =
      (span m e).order - j := exponent_floor _ _
  rw [decimalValue, floor_exponent, next, mul_lt_mul_iff_of_pos_right power] at below_next
  have floor_lt : ((span m e).floor ((span m e).order - j)).digits < 10 ^ (j + 1) := by
    exact_mod_cast below_next
  have grow : 10 ^ (j + 1) ≤ 10 ^ n := Nat.pow_le_pow_right (by decide) small
  omega

/-! ### The zeros at the end -/

/-- Dropping zeros keeps the number. -/
theorem dropZeros_spec (n : Nat) (d : Numeral) :
    decimalValue (dropZeros n d) = decimalValue d ∧ (dropZeros n d).digits ≤ d.digits ∧
      d.exponent ≤ (dropZeros n d).exponent := by
  induction n generalizing d with
  | zero => exact ⟨rfl, le_rfl, le_rfl⟩
  | succ n inductionHypothesis =>
    rw [dropZeros]
    split
    case isTrue zero =>
      rcases inductionHypothesis ⟨d.digits / 10, d.exponent + 1⟩ with ⟨value, fewer, greater⟩
      have whole : d.digits = d.digits / 10 * 10 := by omega
      refine ⟨?_, fewer.trans (Nat.div_le_self _ _), by simp only at greater; omega⟩
      have whole_cast : (d.digits : ℚ) = ((d.digits / 10 : Nat) : ℚ) * 10 := by exact_mod_cast whole
      rw [value, decimalValue, decimalValue, whole_cast, zpow_add_one₀ (by norm_num)]
      ring
    case isFalse => exact ⟨rfl, le_rfl, le_rfl⟩

/-- A power of ten loses its zeros. -/
theorem dropZeros_lt {n : Nat} {d : Numeral} (short : d.digits ≤ 10 ^ (n + 1)) :
    (dropZeros (n + 1) d).digits < 10 ^ (n + 1) := by
  have power : 10 ^ (n + 1) = 10 ^ n * 10 := Nat.pow_succ ..
  have positive : 0 < 10 ^ n := Nat.pow_pos (by decide)
  rw [dropZeros]
  split
  case isTrue zero =>
    have fewer := (dropZeros_spec n ⟨d.digits / 10, d.exponent + 1⟩).2.1
    simp only at fewer
    omega
  case isFalse other => omega

/-! ### The shortest decimal -/

/-- The shortest decimal of a double of a moderate size is one of the numbers that the double stands
for, and has at most seventeen digits. -/
theorem shortest_covers {m : Nat} (normal : Normal m) {e : Int} (low : -117 ≤ e) (high : e ≤ 13) :
    Covers m e (decimalValue (shortest m e (m = 2 ^ 52))) ∧
      0 < (shortest m e (m = 2 ^ 52)).digits ∧ (shortest m e (m = 2 ^ 52)).digits < 10 ^ 17 ∧
      -37 < (shortest m e (m = 2 ^ 52)).exponent ∧ (shortest m e (m = 2 ^ 52)).exponent < 20 := by
  rcases Option.isSome_iff_exists.mp (search_isSome (n := 17) (by decide)
    (nearest?_isSome normal low)) with ⟨d, found⟩
  rcases digits_le_of_search normal low found with ⟨covers, short, deep⟩
  rcases dropZeros_spec 17 d with ⟨value, -, exponent⟩
  have shortest_eq : shortest m e (m = 2 ^ 52) = dropZeros 17 d := by
    rw [shortest, found]
    rfl
  rw [shortest_eq, value]
  rcases covers.value_mem normal with ⟨value_low, value_high⟩
  have digits_pos : 0 < (dropZeros 17 d).digits := by
    by_contra zero
    have none : (dropZeros 17 d).digits = 0 := by omega
    have : decimalValue d = 0 := by
      rw [← value, decimalValue, none, Nat.cast_zero, zero_mul]
    rw [this] at value_low
    exact absurd value_low (not_lt.mpr (zpow_pos two_pos _).le)
  refine ⟨covers, digits_pos, dropZeros_lt short, ?_, ?_⟩
  · have order : (10 : ℚ) ^ (-20 : Int) < 10 ^ ((span m e).order + 1) :=
      calc (10 : ℚ) ^ (-20 : Int) < 2 ^ (-66 : Int) := by norm_num
        _ ≤ 2 ^ (e + 51) := zpow_le_zpow_right₀ one_le_two (by omega)
        _ < m * 2 ^ e := ((covers_self m e).value_mem normal).1
        _ < 10 ^ ((span m e).order + 1) := (span_order_mem normal low).2
    rw [zpow_lt_zpow_iff_right₀ (by norm_num)] at order
    omega
  · have one_le : (1 : ℚ) ≤ (dropZeros 17 d).digits := by exact_mod_cast digits_pos
    have power : (0 : ℚ) < 10 ^ (dropZeros 17 d).exponent := zpow_pos (by norm_num) _
    have small : (10 : ℚ) ^ (dropZeros 17 d).exponent < 10 ^ (20 : Int) :=
      calc (10 : ℚ) ^ (dropZeros 17 d).exponent
          ≤ (dropZeros 17 d).digits * 10 ^ (dropZeros 17 d).exponent :=
            le_mul_of_one_le_left power.le one_le
        _ = decimalValue d := value
        _ < 2 ^ (e + 53) := value_high
        _ ≤ 2 ^ (66 : Int) := zpow_le_zpow_right₀ one_le_two (by omega)
        _ < 10 ^ (20 : Int) := by norm_num
    exact (zpow_lt_zpow_iff_right₀ (by norm_num)).mp small

end Occupancy.Decimal
