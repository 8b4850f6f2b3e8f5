/-
Module: Occupancy.Proofs.JsonTokens
Purpose: Strings and natural numbers of JSON read back from their texts.
Main exports: NumberEnds, readString_escaped, spanDigits_append, takeDigits_eq,
  readNumber_digits
-/
import Mathlib
import Occupancy.Json.Reader
import Occupancy.Proofs.DecimalText

namespace Occupancy.Json

open Decimal

/-!
A string carries its own end, so it is read back whatever stands behind it: each character is read
back from its own escape, and the closing quote comes last. A number has no end of its own; it is
read back if no digit, point or exponent stands behind it.
-/

/-! ### Strings -/

/-- A digit in base sixteen has its value back, and is one byte. -/
theorem hexValue?_digitChar {n : Nat} (small : n < 16) :
    hexValue? n.digitChar = some n ∧ n.digitChar.utf8Size = 1 := by
  have all : ∀ n : Fin 16, hexValue? (n : Nat).digitChar = some (n : Nat) ∧
      (n : Nat).digitChar.utf8Size = 1 := by decide
  exact all ⟨n, small⟩

/-- Four hexadecimal digits of a control character complete it. -/
theorem readStringFrom_hex4 {n : Nat} (control : n < 0x20) (taken rest : List Char) :
    readStringFrom true (.hex (some 0) 0 none) taken (hex4 n ++ rest) =
      readStringFrom true .plain (Char.ofNat n :: taken) rest := by
  have digits : hex4 n = ['0', '0', (n / 16).digitChar, (n % 16).digitChar] := by
    rw [hex4, show n / 4096 % 16 = 0 by omega, show n / 256 % 16 = 0 by omega,
      show n / 16 % 16 = n / 16 by omega]
    rfl
  rcases hexValue?_digitChar (show n / 16 < 16 by omega) with ⟨high, highSize⟩
  rcases hexValue?_digitChar (show n % 16 < 16 by omega) with ⟨low, lowSize⟩
  have zero : hexValue? '0' = some 0 := rfl
  have whole : n / 16 * 16 + n % 16 = n := by omega
  have noSurrogate : ¬(0xD800 ≤ n ∧ n < 0xDC00) ∧ ¬(0xDC00 ≤ n ∧ n < 0xE000) := by omega
  simp [digits, readStringFrom, stringStep, endHex, zero, high, highSize, low, lowSize, whole,
    noSurrogate, show Char.utf8Size '0' = 1 from rfl]

/-- A character is read back from its escape. -/
theorem readStringFrom_escaped (c : Char) (taken rest : List Char) :
    readStringFrom true .plain taken (escaped c ++ rest) =
      readStringFrom true .plain (c :: taken) rest := by
  unfold escaped
  split
  case h_8 quote backslash _ _ _ _ _ =>
    by_cases control : c.toNat < 0x20
    · rw [if_pos control, List.cons_append, List.cons_append]
      conv_rhs => rw [← Char.ofNat_toNat c, ← readStringFrom_hex4 control]
      simp [readStringFrom, stringStep]
    · rw [if_neg control]
      simp only [List.singleton_append, readStringFrom, stringStep, if_neg quote, if_neg backslash,
        if_neg control]
  all_goals simp [readStringFrom, stringStep]

/-- Characters are read back from their escapes one after another. -/
theorem readStringFrom_flatMap_escaped (text taken rest : List Char) :
    readStringFrom true .plain taken (text.flatMap escaped ++ '"' :: rest) =
      .ok (taken.reverse ++ text, rest) := by
  induction text generalizing taken with
  | nil => simp [readStringFrom, stringStep]
  | cons c text inductionHypothesis =>
    rw [List.flatMap_cons, List.append_assoc, readStringFrom_escaped, inductionHypothesis]
    simp

/-- A string is read back from the text between its quotes. -/
theorem readString_escaped (text : String) (rest : List Char) :
    readString (text.toList.flatMap escaped ++ '"' :: rest) = .ok (text.toList, rest) :=
  readStringFrom_flatMap_escaped text.toList [] rest

/-! ### Numbers -/

/-- No number goes on in a text that is empty or begins with a comma or a new line. -/
def NumberEnds (rest : List Char) : Prop := ∀ c ∈ rest.head?, c = ',' ∨ c = '\n'

/-- Digits go as far as no other digit follows. -/
theorem spanDigits_append {text rest : List Char} (digits : ∀ c ∈ text, c.isDigit)
    (ends : ∀ c ∈ rest.head?, c.isDigit = false) : spanDigits (text ++ rest) = (text, rest) := by
  have none_behind : rest.takeWhile Char.isDigit = [] ∧ rest.dropWhile Char.isDigit = rest := by
    cases rest with
    | nil => exact ⟨rfl, rfl⟩
    | cons c rest =>
      have other := ends c rfl
      simp [other]
  rw [spanDigits, List.takeWhile_append_of_pos digits, List.dropWhile_append_of_pos digits,
    none_behind.1, none_behind.2, List.append_nil]

/-- No digit stands where a number ends. -/
theorem NumberEnds.noDigit {rest : List Char} (ends : NumberEnds rest) :
    ∀ c ∈ rest.head?, c.isDigit = false := by
  intro c head
  rcases ends c head with rfl | rfl <;> rfl

/-- All digits of a number below the limit are taken in. -/
theorem takeDigits_eq {text : List Char} {n : Nat}
    (small : Nat.ofDigitChars 10 text n < significandLimit) :
    takeDigits n text = (Nat.ofDigitChars 10 text n, []) := by
  induction text generalizing n with
  | nil => rfl
  | cons c text inductionHypothesis =>
    rw [Nat.ofDigitChars_cons] at small ⊢
    have first := (le_ofDigitChars text _).trans_lt small
    rw [takeDigits]
    simp only [Char.reduceToNat, Nat.mul_comm 10] at small first ⊢
    simp only [if_pos first, inductionHypothesis small]

/-- A natural number of 64 bits is read back from its digits. -/
theorem readNumber_digits {n : Nat} (small : n < significandLimit) {rest : List Char}
    (ends : NumberEnds rest) : readNumber false (digits n ++ rest) = .ok (.natural n, rest) := by
  have nonempty : (digits n).isEmpty = false := by
    simpa using digits_ne_nil n
  have noLeadingZero : ¬((digits n).head? = some '0' ∧ 1 < (digits n).length) := by
    rintro ⟨zero, long⟩
    rcases Nat.eq_zero_or_pos n with rfl | positive
    · exact absurd long (by decide)
    · exact head?_digits_ne_zero positive zero
  have taken : takeDigits 0 (digits n) = (n, []) := by
    rw [takeDigits_eq (by rwa [ofDigitChars_digits]), ofDigitChars_digits]
  rw [readNumber, spanDigits_append (fun c => isDigit_of_mem_digits) ends.noDigit]
  simp only [nonempty, Bool.false_eq_true, if_false, noLeadingZero, taken]
  cases rest with
  | nil => rfl
  | cons c rest =>
    rcases ends c rfl with rfl | rfl <;> rfl

end Occupancy.Json
