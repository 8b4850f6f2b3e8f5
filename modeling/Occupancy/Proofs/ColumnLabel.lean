/-
Module: Occupancy.Proofs.ColumnLabel
Purpose: The label of a column as a numeral, and the order of the labels.
Main exports: Sheet.IsLetter, Sheet.numeral, Sheet.numeral_columnLetters, Sheet.columnLetters_numeral,
  Sheet.numeral_lt_iff, Sheet.columnLabel_bijective
-/
import Mathlib.Data.List.Induction
import Mathlib.Data.String.Basic
import Mathlib.Tactic.Ring
import Occupancy.Sheet.Cell

namespace Occupancy.Sheet

/-!
A label is the number of its column, counted from one, in base twenty-six without a zero: the digits
are worth one to twenty-six. The letters of a number end in the digit of its remainder, and the
letters in front of it are those of what is left. So a number and its letters tell each other by
induction on the last letter.

The order of the labels rests on one bound. Between them the numerals of one length take up exactly
the numbers from that of `A…A` to that of `Z…Z`, and those of the next length go on behind them
(`numeral_bounds`). A shorter label therefore stands before every longer one, and among labels of one
length the first letter that differs outweighs all that follow.
-/

/-- The letters of a label. -/
def IsLetter (c : Char) : Prop := 'A' ≤ c ∧ c ≤ 'Z'

instance (c : Char) : Decidable (IsLetter c) := inferInstanceAs (Decidable (_ ∧ _))

/-- What a letter is worth: `A` counts one and `Z` twenty-six. -/
def letterValue (c : Char) : Nat := c.toNat - 0x40

/-- The number that letters denote in base twenty-six, the most significant first. -/
def numeral (letters : List Char) : Nat := letters.foldl (fun n c => n * 26 + letterValue c) 0

/-! ### Letters -/

theorem isLetter_iff {c : Char} : IsLetter c ↔ 0x41 ≤ c.toNat ∧ c.toNat ≤ 0x5A := by
  rw [IsLetter, Char.le_def, Char.le_def, UInt32.le_iff_toNat_le, UInt32.le_iff_toNat_le]
  rfl

theorem toNat_letter {n : Nat} (small : n < 26) : (letter n).toNat = 0x41 + n := by
  have valid : (0x41 + n).isValidChar := Or.inl (by omega)
  rw [letter, Char.ofNat, dif_pos valid]
  rfl

theorem isLetter_letter {n : Nat} (small : n < 26) : IsLetter (letter n) := by
  rw [isLetter_iff, toNat_letter small]
  omega

theorem letterValue_letter {n : Nat} (small : n < 26) : letterValue (letter n) = n + 1 := by
  rw [letterValue, toNat_letter small]
  omega

theorem IsLetter.value_mem {c : Char} (isLetter : IsLetter c) :
    1 ≤ letterValue c ∧ letterValue c ≤ 26 := by
  rw [isLetter_iff] at isLetter
  rw [letterValue]
  omega

/-- A letter is told by its value. -/
theorem IsLetter.letter_value {c : Char} (isLetter : IsLetter c) :
    letter (letterValue c - 1) = c := by
  have inside := isLetter.value_mem
  apply Char.toNat_inj.mp
  rw [toNat_letter (by omega)]
  rw [isLetter_iff] at isLetter
  rw [letterValue]
  omega

/-- The letters are ordered by their values. -/
theorem IsLetter.lt_iff {c d : Char} (first : IsLetter c) (second : IsLetter d) :
    c < d ↔ letterValue c < letterValue d := by
  rw [isLetter_iff] at first second
  rw [letterValue, letterValue, Char.lt_def, UInt32.lt_iff_toNat_lt]
  change c.toNat < d.toNat ↔ _
  omega

/-! ### Numerals -/

@[simp] theorem numeral_nil : numeral [] = 0 := rfl

theorem numeral_concat (letters : List Char) (c : Char) :
    numeral (letters ++ [c]) = numeral letters * 26 + letterValue c := by
  rw [numeral, List.foldl_append]
  rfl

/-- The first letter has the weight of its place. -/
theorem numeral_cons (c : Char) (letters : List Char) :
    numeral (c :: letters) = letterValue c * 26 ^ letters.length + numeral letters := by
  induction letters using List.reverseRecOn with
  | nil => simp [numeral]
  | append_singleton letters last inductionHypothesis =>
      rw [← List.cons_append, numeral_concat, inductionHypothesis, numeral_concat,
        List.length_append, List.length_singleton, Nat.pow_succ]
      ring

/-- The letters that are put in front of others do not depend on those. -/
theorem columnLetters_append (n : Nat) (after : List Char) :
    columnLetters n after = columnLetters n [] ++ after := by
  induction n using Nat.strong_induction_on generalizing after with
  | _ n inductionHypothesis =>
      by_cases zero : n = 0
      · simp [columnLetters, zero]
      · rw [columnLetters, dif_neg zero, columnLetters.eq_1 n, dif_neg zero,
          inductionHypothesis _ (by omega), inductionHypothesis _ (by omega) [_],
          List.append_assoc]
        rfl

theorem columnLetters_zero : columnLetters 0 [] = [] := by
  rw [columnLetters, dif_pos rfl]

/-- The last letter of a number is that of its remainder. -/
theorem columnLetters_succ (n : Nat) :
    columnLetters (n + 1) [] = columnLetters (n / 26) [] ++ [letter (n % 26)] := by
  rw [columnLetters, dif_neg (Nat.succ_ne_zero n), Nat.add_sub_cancel, columnLetters_append]

theorem isLetter_of_mem_columnLetters {n : Nat} {c : Char} (member : c ∈ columnLetters n []) :
    IsLetter c := by
  induction n using Nat.strong_induction_on with
  | _ n inductionHypothesis =>
      cases n with
      | zero =>
          rw [columnLetters_zero] at member
          cases member
      | succ n =>
          rw [columnLetters_succ, List.mem_append, List.mem_singleton] at member
          rcases member with front | rfl
          · exact inductionHypothesis (n / 26) (by omega) front
          · exact isLetter_letter (Nat.mod_lt n (by decide))

/-- The letters of a number denote it. -/
theorem numeral_columnLetters (n : Nat) : numeral (columnLetters n []) = n := by
  induction n using Nat.strong_induction_on with
  | _ n inductionHypothesis =>
      cases n with
      | zero => rw [columnLetters_zero, numeral_nil]
      | succ n =>
          rw [columnLetters_succ, numeral_concat, inductionHypothesis (n / 26) (by omega),
            letterValue_letter (Nat.mod_lt n (by decide))]
          omega

/-- Letters are those of the number that they denote. -/
theorem columnLetters_numeral {letters : List Char} (isLetter : ∀ c ∈ letters, IsLetter c) :
    columnLetters (numeral letters) [] = letters := by
  induction letters using List.reverseRecOn with
  | nil => exact columnLetters_zero
  | append_singleton letters c inductionHypothesis =>
      simp only [List.mem_append, List.mem_singleton] at isLetter
      have last : IsLetter c := isLetter c (Or.inr rfl)
      have inside := last.value_mem
      obtain ⟨n, same⟩ : ∃ n, numeral letters * 26 + letterValue c = n + 1 :=
        ⟨numeral letters * 26 + (letterValue c - 1), by omega⟩
      have quotient : n / 26 = numeral letters := by omega
      have remainder : n % 26 = letterValue c - 1 := by omega
      rw [numeral_concat, same, columnLetters_succ, quotient, remainder, last.letter_value,
        inductionHypothesis fun c member => isLetter c (Or.inl member)]

/-! ### The order of the numerals -/

/-- The numerals of one length lie between that of `A…A` and that of `Z…Z`. -/
theorem numeral_bounds {letters : List Char} (isLetter : ∀ c ∈ letters, IsLetter c) :
    26 ^ letters.length ≤ 25 * numeral letters + 1 ∧
      25 * numeral letters + 26 ≤ 26 * 26 ^ letters.length := by
  induction letters using List.reverseRecOn with
  | nil => decide
  | append_singleton letters c inductionHypothesis =>
      simp only [List.mem_append, List.mem_singleton] at isLetter
      have inside := (isLetter c (Or.inr rfl)).value_mem
      obtain ⟨lower, upper⟩ := inductionHypothesis fun c member => isLetter c (Or.inl member)
      rw [numeral_concat, List.length_append, List.length_singleton, Nat.pow_succ]
      omega

/-- A shorter numeral is less than a longer one. -/
theorem numeral_lt_of_length_lt {first second : List Char} (firstLetters : ∀ c ∈ first, IsLetter c)
    (secondLetters : ∀ c ∈ second, IsLetter c) (shorter : first.length < second.length) :
    numeral first < numeral second := by
  have upper := (numeral_bounds firstLetters).2
  have lower := (numeral_bounds secondLetters).1
  have powers : 26 ^ (first.length + 1) ≤ 26 ^ second.length :=
    Nat.pow_le_pow_right (by decide) shorter
  rw [Nat.pow_succ] at powers
  omega

/-- What follows a letter is worth less than one step of that letter. -/
theorem numeral_cons_lt_of_lt {c d : Char} {first second : List Char}
    (firstLetters : ∀ c ∈ first, IsLetter c) (secondLetters : ∀ c ∈ second, IsLetter c)
    (sameLength : first.length = second.length) (before : letterValue c < letterValue d) :
    numeral (c :: first) < numeral (d :: second) := by
  have upper := (numeral_bounds firstLetters).2
  have lower := (numeral_bounds secondLetters).1
  have step : (letterValue c + 1) * 26 ^ second.length ≤ letterValue d * 26 ^ second.length :=
    Nat.mul_le_mul_right _ before
  rw [Nat.add_mul, Nat.one_mul] at step
  rw [numeral_cons, numeral_cons, sameLength]
  rw [sameLength] at upper
  omega

/-- Numerals of one length are ordered as words. -/
theorem numeral_lt_iff_lt {first second : List Char} (firstLetters : ∀ c ∈ first, IsLetter c)
    (secondLetters : ∀ c ∈ second, IsLetter c) (sameLength : first.length = second.length) :
    numeral first < numeral second ↔ first < second := by
  induction first generalizing second with
  | nil =>
      cases second with
      | nil => exact iff_of_false (Nat.lt_irrefl _) (List.lt_irrefl _)
      | cons d second => cases sameLength
  | cons c first inductionHypothesis =>
      cases second with
      | nil => cases sameLength
      | cons d second =>
          rw [List.forall_mem_cons] at firstLetters secondLetters
          have restLength : first.length = second.length := Nat.succ.inj sameLength
          rw [List.cons_lt_cons_iff, firstLetters.1.lt_iff secondLetters.1]
          rcases Nat.lt_trichotomy (letterValue c) (letterValue d) with before | same | behind
          · exact iff_of_true
              (numeral_cons_lt_of_lt firstLetters.2 secondLetters.2 restLength before)
              (Or.inl before)
          · have letters : c = d := by
              rw [← firstLetters.1.letter_value, same, secondLetters.1.letter_value]
            rw [numeral_cons, numeral_cons, same, restLength, Nat.add_lt_add_iff_left,
              inductionHypothesis firstLetters.2 secondLetters.2 restLength]
            simp [letters]
          · have greater :=
              numeral_cons_lt_of_lt secondLetters.2 firstLetters.2 restLength.symm behind
            refine iff_of_false (Nat.lt_asymm greater) ?_
            rintro (before | ⟨rfl, -⟩)
            · exact Nat.lt_asymm before behind
            · exact Nat.lt_irrefl _ behind

/-- Numerals are ordered by their length first and then as words. -/
theorem numeral_lt_iff {first second : List Char} (firstLetters : ∀ c ∈ first, IsLetter c)
    (secondLetters : ∀ c ∈ second, IsLetter c) :
    numeral first < numeral second ↔
      first.length < second.length ∨ first.length = second.length ∧ first < second := by
  rcases Nat.lt_trichotomy first.length second.length with shorter | same | longer
  · exact iff_of_true (numeral_lt_of_length_lt firstLetters secondLetters shorter) (Or.inl shorter)
  · rw [numeral_lt_iff_lt firstLetters secondLetters same]
    simp [same]
  · have greater := numeral_lt_of_length_lt secondLetters firstLetters longer
    refine iff_of_false (Nat.lt_asymm greater) ?_
    rintro (shorter | ⟨same, -⟩)
    · exact Nat.lt_asymm shorter longer
    · exact Nat.lt_irrefl _ (same ▸ longer)

/-! ### Labels -/

theorem toList_columnLabel (column : Nat) :
    (columnLabel column).toList = columnLetters (column + 1) [] := String.toList_ofList

theorem isLetter_of_mem_columnLabel (column : Nat) (c : Char)
    (member : c ∈ (columnLabel column).toList) : IsLetter c := by
  rw [toList_columnLabel] at member
  exact isLetter_of_mem_columnLetters member

theorem numeral_columnLabel (column : Nat) : numeral (columnLabel column).toList = column + 1 := by
  rw [toList_columnLabel, numeral_columnLetters]

/-- No two columns have the same label. -/
theorem columnLabel_injective : Function.Injective columnLabel := by
  intro column other same
  have numerals := congrArg (fun label : String => numeral label.toList) same
  simp only [numeral_columnLabel] at numerals
  exact Nat.succ.inj numerals

/-- The labels of the columns are the bijective numerals in base twenty-six. Every column has a label,
which is some letters from `A` to `Z` that denote the number of the column counted from one; every such
letters are the label of one column and no other, the one that they denote; and the columns stand in
the order of their labels, of which a shorter one stands before a longer one, and those of one length
are in alphabetical order. -/
theorem columnLabel_bijective :
    (∀ column, columnLabel column ≠ "" ∧ (∀ c ∈ (columnLabel column).toList, 'A' ≤ c ∧ c ≤ 'Z') ∧
      numeral (columnLabel column).toList = column + 1) ∧
    (∀ label : String, label ≠ "" → (∀ c ∈ label.toList, 'A' ≤ c ∧ c ≤ 'Z') →
      ∃ column, column + 1 = numeral label.toList ∧ columnLabel column = label ∧
        ∀ other, columnLabel other = label → other = column) ∧
    ∀ column other, column < other ↔
      (columnLabel column).length < (columnLabel other).length ∨
        (columnLabel column).length = (columnLabel other).length ∧
          columnLabel column < columnLabel other := by
  refine ⟨fun column => ⟨?_, isLetter_of_mem_columnLabel column, numeral_columnLabel column⟩,
    ?_, ?_⟩
  · intro empty
    have denoted := numeral_columnLabel column
    rw [empty] at denoted
    cases denoted
  · intro label nonempty letters
    have denoted : columnLetters (numeral label.toList) [] = label.toList :=
      columnLetters_numeral letters
    obtain ⟨column, numbered⟩ : ∃ column, numeral label.toList = column + 1 := by
      refine Nat.exists_eq_succ_of_ne_zero fun zero => nonempty ?_
      rw [zero, columnLetters_zero] at denoted
      exact String.toList_eq_nil_iff.mp denoted.symm
    have labelled : columnLabel column = label := by
      rw [columnLabel, ← numbered, denoted, String.ofList_toList]
    exact ⟨column, numbered.symm, labelled, fun other same =>
      columnLabel_injective (same.trans labelled.symm)⟩
  · intro column other
    have order := numeral_lt_iff (isLetter_of_mem_columnLabel column)
      (isLetter_of_mem_columnLabel other)
    rw [numeral_columnLabel, numeral_columnLabel, Nat.add_lt_add_iff_right] at order
    rw [order, String.length_toList, String.length_toList, String.lt_iff_toList_lt]

/-- Behind `Z` the labels go on with a second letter, and behind `ZZ` with a third. -/
example : columnLabel 25 = "Z" ∧ columnLabel 26 = "AA" ∧ columnLabel 701 = "ZZ" ∧
    columnLabel 702 = "AAA" ∧ columnLabel 16383 = "XFD" := by
  decide +kernel

end Occupancy.Sheet
