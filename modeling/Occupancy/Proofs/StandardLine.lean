/-
Module: Occupancy.Proofs.StandardLine
Purpose: The lines that the usual rule reads a sample off, and what it reads.
Main exports: LastCandidate, lastCandidate?_eq_some_iff, decimalNumber, occupancy?_eq_some_iff,
  parse_standard
-/
import Mathlib
import Occupancy.Proofs.StandardSearch

namespace Occupancy

open Pattern

/-!
The last colon with a digit behind it decides alone. The search runs on to the last of its digits,
of whatever script, and only then is the text of the digits read as a number; when that fails no
other match is looked for.
-/

/-- In a text the last colon with a decimal digit behind it: what stands before it, all the digits
behind it, and what comes after these. -/
structure LastCandidate (text kernel digits after : List Char) : Prop where
  split : text = kernel ++ ':' :: (digits ++ after)
  nonempty : digits ≠ []
  decimal : ∀ c ∈ digits, IsDecimalDigit c
  maximal : ∀ c rest, after = c :: rest → ¬IsDecimalDigit c
  last : ∀ before c rest, digits ++ after = before ++ ':' :: c :: rest → ¬IsDecimalDigit c

/-- There are digits at the front of a text if its first character is one. -/
theorem takeWhile_digits_eq_nil_iff (text : List Char) :
    text.takeWhile digitSet.contains = [] ↔
      ∀ c rest, text = c :: rest → ¬IsDecimalDigit c := by
  cases text with
  | nil => simp
  | cons c rest => simp [List.takeWhile_cons, ← digitSet_contains_iff]

/-- A text without candidates has no colon with a digit behind it. -/
theorem lastCandidate?_eq_none_iff (text : List Char) :
    lastCandidate? text = none ↔
      ∀ before c rest, text = before ++ ':' :: c :: rest → ¬IsDecimalDigit c := by
  induction text with
  | nil => simp [lastCandidate?]
  | cons first text inductionHypothesis =>
      have head : lastCandidate? (first :: text) = none ↔
          lastCandidate? text = none ∧
            (first = ':' → text.takeWhile digitSet.contains = []) := by
        rw [lastCandidate?]
        cases lastCandidate? text <;> simp
      rw [head, inductionHypothesis, takeWhile_digits_eq_nil_iff]
      constructor
      · rintro ⟨later, here⟩ before c rest split
        cases before with
        | nil =>
            rw [List.nil_append, List.cons.injEq] at split
            exact here split.1 c rest split.2
        | cons _ before => exact later before c rest (List.cons.inj split).2
      · intro nowhere
        refine ⟨fun before c rest split => ?_, fun colon c rest split => ?_⟩
        · exact nowhere (first :: before) c rest (by rw [split, List.cons_append])
        · exact nowhere [] c rest (by rw [colon, split, List.nil_append])

/-- The search finds the last candidate. -/
theorem lastCandidate?_eq_some_iff (text kernel digits : List Char) :
    lastCandidate? text = some (kernel, digits) ↔
      ∃ after, LastCandidate text kernel digits after := by
  constructor
  · intro found
    induction text generalizing kernel with
    | nil => cases found
    | cons first text inductionHypothesis =>
        rw [lastCandidate?] at found
        cases later : lastCandidate? text with
        | some candidate =>
            simp only [later, Option.some.injEq, Prod.mk.injEq] at found
            obtain ⟨rfl, rfl⟩ := found
            obtain ⟨after, candidate⟩ := inductionHypothesis _ later
            exact ⟨after, { candidate with split := by rw [candidate.split, List.cons_append] }⟩
        | none =>
            simp only [later, Option.ite_none_right_eq_some, Option.some.injEq,
              Prod.mk.injEq] at found
            obtain ⟨⟨rfl, nonempty⟩, rfl, rfl⟩ := found
            have whole := List.takeWhile_append_dropWhile (p := digitSet.contains) (l := text)
            refine ⟨text.dropWhile digitSet.contains, by rw [whole, List.nil_append], nonempty,
              fun c member => ?_, fun c rest behind => ?_, ?_⟩
            · exact (digitSet_contains_iff c).mp (List.mem_takeWhile_imp member)
            · intro digit
              have stopped := List.head?_dropWhile_not digitSet.contains text
              rw [behind, List.head?_cons] at stopped
              exact absurd ((digitSet_contains_iff c).mpr digit) (by simp [stopped])
            · rw [whole]
              exact (lastCandidate?_eq_none_iff text).mp later
  · rintro ⟨after, candidate⟩
    induction kernel generalizing text with
    | nil =>
        obtain ⟨rfl, nonempty, decimal, maximal, last⟩ := candidate
        have digitsEq : (digits ++ after).takeWhile digitSet.contains = digits := by
          rw [List.takeWhile_append_of_pos fun c member =>
            (digitSet_contains_iff c).mpr (decimal c member),
            (takeWhile_digits_eq_nil_iff after).mpr maximal, List.append_nil]
        rw [List.nil_append, lastCandidate?, (lastCandidate?_eq_none_iff _).mpr last]
        simp only [digitsEq, nonempty, ne_eq, not_false_eq_true, and_self, if_true]
    | cons first kernel inductionHypothesis =>
        obtain ⟨rfl, nonempty, decimal, maximal, last⟩ := candidate
        rw [List.cons_append, lastCandidate?,
          inductionHypothesis _ ⟨rfl, nonempty, decimal, maximal, last⟩]

/-- The number that ASCII digits denote. -/
def decimalNumber (digits : List Char) : Nat :=
  Nat.ofDigits 10 (digits.reverse.map fun c => c.toNat - '0'.toNat)

theorem foldl_eq_decimalNumber (digits : List Char) :
    digits.foldl (fun n d => n * 10 + (d.toNat - 0x30)) 0 = decimalNumber digits := by
  induction digits using List.reverseRecOn with
  | nil => rfl
  | append_singleton digits digit inductionHypothesis =>
      rw [List.foldl_append, inductionHypothesis, decimalNumber, decimalNumber,
        List.reverse_append, List.reverse_singleton, List.singleton_append, List.map_cons,
        Nat.ofDigits_cons, Nat.add_comm, Nat.mul_comm]
      rfl

/-- Some characters have a value if all are ASCII digits. -/
theorem decimalValue?_eq_ite {digits : List Char} (nonempty : digits ≠ []) :
    decimalValue? digits =
      if ∀ c ∈ digits, c.isDigit = true then some (decimalNumber digits) else none := by
  rw [decimalValue?, foldl_eq_decimalNumber]
  by_cases ascii : ∀ c ∈ digits, c.isDigit = true
  · rw [if_pos ascii, if_neg]
    simpa [nonempty] using ascii
  · rw [if_neg ascii, if_pos]
    simpa [nonempty] using ascii

/-- Digits of any script are read as a number if they are ASCII digits and the number fits. -/
theorem occupancy?_eq_some_iff {digits : List Char} (nonempty : digits ≠ [])
    (decimal : ∀ c ∈ digits, IsDecimalDigit c) (value : UInt32) :
    occupancy? digits = some value ↔
      (∀ c ∈ digits, c.isDigit = true) ∧ decimalNumber digits < UInt32.size ∧
        value.toNat = decimalNumber digits := by
  have plusNoDigit : ¬IsDecimalDigit '+' := by
    rw [← digitSet_contains_iff]
    decide +kernel
  have unsigned : occupancy? digits =
      (decimalValue? digits).bind fun n =>
        if n < UInt32.size then some (UInt32.ofNat n) else none := by
    unfold occupancy?
    cases digits with
    | nil => exact absurd rfl nonempty
    | cons c rest =>
        have signless : c ≠ '+' := fun plus => plusNoDigit (plus ▸ decimal c List.mem_cons_self)
        split
        · rename_i same
          exact absurd (List.cons.inj same).1 signless
        · rfl
  rw [unsigned, decimalValue?_eq_ite nonempty]
  by_cases ascii : ∀ c ∈ digits, c.isDigit = true
  · by_cases fits : decimalNumber digits < UInt32.size
    · rw [if_pos ascii, Option.bind_some, if_pos fits, Option.some.injEq,
        ← UInt32.toNat_inj, UInt32.toNat_ofNat_of_lt' fits]
      exact ⟨fun same => ⟨ascii, fits, same.symm⟩, fun holds => holds.2.2.symm⟩
    · rw [if_pos ascii, Option.bind_some, if_neg fits]
      exact iff_of_false (Option.some_ne_none value).symm fun holds => fits holds.2.1
  · rw [if_neg ascii, Option.bind_none]
    exact iff_of_false (Option.some_ne_none value).symm fun holds => ascii holds.1

/-- The usual rule reads its sample off the marks of the match. -/
theorem parse_standard_eq_find? (line : List Char) :
    LineRule.standard.parse line =
      (standardProgram.find? line).bind fun marks =>
        (groupText marks line 0).bind fun kernel =>
          (groupText marks line 1).bind fun digits =>
            (occupancy? digits).map fun value => ⟨String.ofList kernel, value⟩ := by
  rw [LineRule.parse, Pattern.captures?, standard_program, standard_names]
  cases standardProgram.find? line with
  | none => rfl
  | some marks =>
      -- The group of each name is looked up in the list by evaluation.
      simp only [Option.bind_eq_bind, Option.bind_some, Option.map_eq_bind]
      rfl

/-- What the two groups of a match have of a text. -/
theorem groupText_matchMarks (kernel digits rest : List Char) :
    let text := lead ++ (kernel ++ ':' :: (digits ++ rest))
    let marks := matchMarks (lead.length + kernel.length)
      (lead.length + kernel.length + 1 + digits.length)
    groupText marks text 0 = some kernel ∧ groupText marks text 1 = some digits := by
  intro text marks
  have first : groupText marks text 0 =
      some ((text.drop lead.length).take (lead.length + kernel.length - lead.length)) := rfl
  have second : groupText marks text 1 =
      some ((text.drop (lead.length + kernel.length + 1)).take
        (lead.length + kernel.length + 1 + digits.length -
          (lead.length + kernel.length + 1))) := rfl
  have behind : text.drop (lead.length + kernel.length + 1) = digits ++ rest := by
    rw [Nat.add_assoc, ← List.drop_drop, List.drop_left, ← List.drop_drop, List.drop_left]
    rfl
  rw [first, second, behind, List.drop_left, Nat.add_sub_cancel_left, Nat.add_sub_cancel_left,
    List.take_left, List.take_left]
  exact ⟨rfl, rfl⟩

/-- Behind the first words the last candidate alone is read. -/
theorem parse_standard_lead_append (text : List Char) :
    LineRule.standard.parse (lead ++ text) =
      (lastCandidate? (text.takeWhile (· ≠ '\n'))).bind fun candidate =>
        (occupancy? candidate.2).map fun value => ⟨String.ofList candidate.1, value⟩ := by
  rw [parse_standard_eq_find?, find?_lead_append, Pending.found]
  cases found : lastCandidate? (text.takeWhile (· ≠ '\n')) with
  | none => rfl
  | some candidate =>
      obtain ⟨kernel, digits⟩ := candidate
      obtain ⟨after, last⟩ := (lastCandidate?_eq_some_iff _ _ _).mp found
      have split : text =
          kernel ++ ':' :: (digits ++ (after ++ text.dropWhile (· ≠ '\n'))) := by
        have line := List.takeWhile_append_dropWhile (p := (· ≠ '\n')) (l := text)
        rw [last.split] at line
        simpa using line.symm
      obtain ⟨kernelText, digitsText⟩ :=
        groupText_matchMarks kernel digits (after ++ text.dropWhile (· ≠ '\n'))
      rw [← split] at kernelText digitsText
      simp only [Option.bind_some, kernelText, digitsText]

/-- A line without the first words holds no sample. -/
theorem parse_standard_of_differs {line : List Char} (differs : ¬lead <+: line) :
    LineRule.standard.parse line = none := by
  rw [parse_standard_eq_find?, find?_of_differs differs, Option.bind_none]

/-- The usual rule reads a sample off just the lines that begin with its first words and have, in
what is left of the line, a last colon with a decimal digit behind it whose digits are all ASCII
digits and denote a number of 32 bits. The kernel is all that stands before that colon, and the
value is that number. Where the digits of the last candidate are no such number there is no sample,
whatever stands before. -/
theorem parse_standard (line : List Char) :
    (∀ sample, LineRule.standard.parse line = some sample ↔
      ∃ text kernel digits after, line = lead ++ text ∧
        LastCandidate (text.takeWhile (· ≠ '\n')) kernel digits after ∧
        (∀ c ∈ digits, c.isDigit = true) ∧ decimalNumber digits < UInt32.size ∧
        sample.kernel = String.ofList kernel ∧ sample.value.toNat = decimalNumber digits) ∧
    (∀ text kernel digits after, line = lead ++ text →
      LastCandidate (text.takeWhile (· ≠ '\n')) kernel digits after →
      ¬((∀ c ∈ digits, c.isDigit = true) ∧ decimalNumber digits < UInt32.size) →
      LineRule.standard.parse line = none) := by
  refine ⟨fun sample => ⟨fun parsed => ?_, ?_⟩, ?_⟩
  · by_cases begins : lead <+: line
    · obtain ⟨text, rfl⟩ := begins
      rw [parse_standard_lead_append, Option.bind_eq_some_iff] at parsed
      obtain ⟨⟨kernel, digits⟩, found, read⟩ := parsed
      obtain ⟨value, number, rfl⟩ := Option.map_eq_some_iff.mp read
      obtain ⟨after, last⟩ := (lastCandidate?_eq_some_iff _ _ _).mp found
      obtain ⟨ascii, fits, valueEq⟩ :=
        (occupancy?_eq_some_iff last.nonempty last.decimal value).mp number
      exact ⟨text, kernel, digits, after, rfl, last, ascii, fits, rfl, valueEq⟩
    · rw [parse_standard_of_differs begins] at parsed
      cases parsed
  · rintro ⟨text, kernel, digits, after, rfl, last, ascii, fits, kernelEq, valueEq⟩
    obtain ⟨sampleKernel, value⟩ := sample
    have found := (lastCandidate?_eq_some_iff _ kernel digits).mpr ⟨after, last⟩
    have number :=
      (occupancy?_eq_some_iff last.nonempty last.decimal value).mpr ⟨ascii, fits, valueEq⟩
    rw [parse_standard_lead_append, found, Option.bind_some, number, Option.map_some,
      ← show sampleKernel = String.ofList kernel from kernelEq]
  · rintro text kernel digits after rfl last unreadable
    have found := (lastCandidate?_eq_some_iff _ kernel digits).mpr ⟨after, last⟩
    have number : occupancy? digits = none := by
      rw [Option.eq_none_iff_forall_ne_some]
      intro value read
      obtain ⟨ascii, fits, -⟩ :=
        (occupancy?_eq_some_iff last.nonempty last.decimal value).mp read
      exact unreadable ⟨ascii, fits⟩
    rw [parse_standard_lead_append, found, Option.bind_some, number, Option.map_none]

/-- An Arabic digit behind the last colon, which is not read, and an ASCII one behind another, which
is not turned to. -/
example : LineRule.standard.parse "Final occupancy for function gemm:1:\u0663".toList = none := by
  decide +kernel

end Occupancy
