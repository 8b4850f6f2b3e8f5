/-
Module: Occupancy.Proofs.TimestampText
Purpose: Instants read back from their texts.
Main exports: daysOfDate_dateOfDays, dateOfDays_mem, Timestamp.Valid, parse?_text
-/
import Mathlib
import Occupancy.Proofs.DecimalText
import Occupancy.Timestamp

namespace Occupancy.Timestamp

open Decimal

/-!
A date comes back as the day that it was made of: the day of the era is split into centuries, these
into fours of years, and these into years, and what is left of the last year makes the month and the
day by themselves. Only the last day of a leap year needs the rule for leap years.
-/

/-! ### The calendar -/

/-- In a century that has `c` of its era before it, the day `r` lies in year `4 * q + t`: `q` fours
of years with a leap day each, and `t` years, which is negative for the leap day itself. -/
theorem dayOfYear_of_century {c r q t : Int} (century : 0 ≤ c ∧ c ≤ 3) (day : 0 ≤ r ∧ r ≤ 36523)
    (fours : 1460 * q ≤ r + 24 * c ∧ r + 24 * c < 1460 * q + 1460)
    (ones : 365 * t ≤ r - 1461 * q ∧ r - 1461 * q < 365 * t + 365) :
    (0 ≤ 4 * q + t ∧ 4 * q + t ≤ 99) ∧
      (0 ≤ r - 365 * (4 * q + t) - (4 * q + t) / 4 ∧
        r - 365 * (4 * q + t) - (4 * q + t) / 4 ≤ 365) ∧
      (r - 365 * (4 * q + t) - (4 * q + t) / 4 = 365 → (4 * q + t) % 4 = 3 ∧ 4 * q + t ≠ 99) := by
  have few : -1 ≤ t ∧ t ≤ 3 := by omega
  omega

/-- The year of an era that a day lies in, counted from March. -/
def yearOfEra (day : Int) : Int :=
  (day - day / 1460 + day / 36524 - day / 146096) / 365

/-- The days of an era before a year of it. -/
def daysBefore (year : Int) : Int := 365 * year + year / 4 - year / 100

/-- Each day of an era lies in one of its years, and is the last of a leap year only in front of one
that the rule names. -/
theorem yearOfEra_mem {day : Int} (era : 0 ≤ day ∧ day < 146097) :
    (0 ≤ yearOfEra day ∧ yearOfEra day ≤ 399) ∧
      (0 ≤ day - daysBefore (yearOfEra day) ∧ day - daysBefore (yearOfEra day) ≤ 365) ∧
      (day - daysBefore (yearOfEra day) = 365 →
        (yearOfEra day + 1) % 4 = 0 ∧
          ((yearOfEra day + 1) % 100 ≠ 0 ∨ (yearOfEra day + 1) % 400 = 0)) := by
  unfold yearOfEra daysBefore
  -- the last day of the era is the only one of a fifth century
  rcases lt_or_ge day 146096 with early | last
  · generalize c_eq : day / 36524 = c
    generalize r_eq : day % 36524 = r
    generalize q_eq : (r + 24 * c) / 1460 = q
    generalize t_eq : (r - 1461 * q) / 365 = t
    have split := dayOfYear_of_century (c := c) (r := r) (q := q) (t := t) (by omega) (by omega)
      (by omega) (by omega)
    have fours : day / 1460 = 25 * c + q := by omega
    have year : (day - day / 1460 + c - day / 146096) / 365 = 100 * c + (4 * q + t) := by omega
    have whole : day = 36524 * c + r := by omega
    have few : 0 ≤ c ∧ c ≤ 3 := by omega
    rw [year, whole]
    clear year fours q_eq t_eq c_eq r_eq whole early era
    generalize 4 * q + t = y at split ⊢
    omega
  · have only : day = 146096 := by omega
    subst only
    decide

/-- The month from March of a day of a year counted from March. -/
def monthFromMarch (dayOfYear : Nat) : Nat := (5 * dayOfYear + 2) / 153

/-- The month of a day of a year counted from March. -/
def monthOf (dayOfYear : Nat) : Nat :=
  if monthFromMarch dayOfYear < 10 then monthFromMarch dayOfYear + 3
  else monthFromMarch dayOfYear - 9

/-- The day of its month of a day of a year counted from March. -/
def dayOf (dayOfYear : Nat) : Nat := dayOfYear - (153 * monthFromMarch dayOfYear + 2) / 5 + 1

/-- The month and the day of a day of a year: they are those of a calendar, and they make that day
again. Only the last day of a leap year is a twenty-ninth of February. -/
theorem monthAndDay_mem {dayOfYear : Nat} (small : dayOfYear ≤ 365) :
    (monthOf dayOfYear + 9) % 12 = monthFromMarch dayOfYear ∧
      (153 * monthFromMarch dayOfYear + 2) / 5 + dayOf dayOfYear = dayOfYear + 1 ∧
      (monthOf dayOfYear ≤ 2 ↔ 306 ≤ dayOfYear) ∧
      (1 ≤ monthOf dayOfYear ∧ monthOf dayOfYear ≤ 12) ∧ 1 ≤ dayOf dayOfYear ∧
      dayOf dayOfYear ≤ (if monthOf dayOfYear = 2 then if dayOfYear = 365 then 29 else 28
        else if monthOf dayOfYear = 4 ∨ monthOf dayOfYear = 6 ∨ monthOf dayOfYear = 9 ∨
          monthOf dayOfYear = 11 then 30 else 31) := by
  have all : ∀ d : Fin 366,
      (monthOf d + 9) % 12 = monthFromMarch d ∧
        (153 * monthFromMarch d + 2) / 5 + dayOf d = d + 1 ∧
        (monthOf d ≤ 2 ↔ 306 ≤ d.val) ∧
        (1 ≤ monthOf d ∧ monthOf d ≤ 12) ∧ 1 ≤ dayOf d ∧
        dayOf d ≤ (if monthOf d = 2 then if d.val = 365 then 29 else 28
          else if monthOf d = 4 ∨ monthOf d = 6 ∨ monthOf d = 9 ∨ monthOf d = 11 then 30
          else 31) := by decide +kernel
  exact all ⟨dayOfYear, by omega⟩

/-- A date is made of an era, a year of it and a day of that year, all counted from March. -/
theorem exists_dateOfDays (days : Int) :
    ∃ (era year : Int) (dayOfYear : Nat),
      days = era * 146097 + daysBefore year + dayOfYear - 719468 ∧
      (0 ≤ year ∧ year ≤ 399) ∧ dayOfYear ≤ 365 ∧
      (dayOfYear = 365 → (year + 1) % 4 = 0 ∧ ((year + 1) % 100 ≠ 0 ∨ (year + 1) % 400 = 0)) ∧
      dateOfDays days =
        (year + era * 400 + (if monthOf dayOfYear ≤ 2 then 1 else 0), monthOf dayOfYear,
          dayOf dayOfYear) := by
  have era_mem : 0 ≤ (days + 719468) % 146097 ∧ (days + 719468) % 146097 < 146097 := by omega
  rcases yearOfEra_mem era_mem with ⟨year_mem, day_mem, last⟩
  refine ⟨(days + 719468) / 146097, yearOfEra ((days + 719468) % 146097),
    ((days + 719468) % 146097 - daysBefore (yearOfEra ((days + 719468) % 146097))).toNat,
    by omega, year_mem, by omega, fun same => last (by omega), ?_⟩
  rw [dateOfDays, Int.fdiv_eq_ediv_of_nonneg _ (by decide), Int.fmod_eq_emod_of_nonneg _ (by decide)]
  rfl

/-- The day of a date that was made of a day is that day. -/
theorem daysOfDate_dateOfDays (days : Int) :
    daysOfDate (dateOfDays days).1 (dateOfDays days).2.1 (dateOfDays days).2.2 = days := by
  rcases exists_dateOfDays days with ⟨era, year, dayOfYear, days_eq, year_mem, small, -, date⟩
  rcases monthAndDay_mem small with ⟨fromMarch, whole, -⟩
  have yearFromMarch : (if monthOf dayOfYear ≤ 2 then
      year + era * 400 + (if monthOf dayOfYear ≤ 2 then 1 else 0) - 1
      else year + era * 400 + (if monthOf dayOfYear ≤ 2 then 1 else 0)) = year + era * 400 := by
    split <;> omega
  rw [date]
  simp only [daysOfDate, yearFromMarch]
  rw [Int.fdiv_eq_ediv_of_nonneg _ (by decide), Int.fmod_eq_emod_of_nonneg _ (by decide),
    show (year + era * 400) / 400 = era by omega, show (year + era * 400) % 400 = year by omega,
    fromMarch, days_eq, daysBefore]
  omega

/-- The month and the day of a date are those of a calendar. -/
theorem dateOfDays_mem (days : Int) :
    (1 ≤ (dateOfDays days).2.1 ∧ (dateOfDays days).2.1 ≤ 12) ∧ 1 ≤ (dateOfDays days).2.2 ∧
      (dateOfDays days).2.2 ≤ daysInMonth (dateOfDays days).1 (dateOfDays days).2.1 := by
  rcases exists_dateOfDays days with ⟨era, year, dayOfYear, -, year_mem, small, last, date⟩
  rcases monthAndDay_mem small with ⟨-, -, early, month_mem, positive, short⟩
  rw [date]
  refine ⟨month_mem, positive, short.trans ?_⟩
  rw [daysInMonth]
  by_cases february : monthOf dayOfYear = 2
  · rw [if_pos february, if_pos february, if_pos (show monthOf dayOfYear ≤ 2 by omega)]
    simp only [Int.fmod_eq_emod_of_nonneg _ (show (0 : Int) ≤ 4 by decide),
      Int.fmod_eq_emod_of_nonneg _ (show (0 : Int) ≤ 100 by decide),
      Int.fmod_eq_emod_of_nonneg _ (show (0 : Int) ≤ 400 by decide)]
    by_cases leapDay : dayOfYear = 365
    · have rule := last leapDay
      rw [if_pos leapDay, if_pos (by omega)]
    · rw [if_neg leapDay]
      split <;> omega
  · rw [if_neg february, if_neg february]

/-- A day of the years that a date can lie in has a year among these. -/
theorem year_dateOfDays_mem {days : Int}
    (first : daysOfDate yearBounds.1 1 1 ≤ days) (last : days ≤ daysOfDate yearBounds.2 12 31) :
    yearBounds.1 ≤ (dateOfDays days).1 ∧ (dateOfDays days).1 ≤ yearBounds.2 := by
  rcases exists_dateOfDays days with ⟨era, year, dayOfYear, days_eq, year_mem, small, -, date⟩
  rcases monthAndDay_mem small with ⟨-, -, early, -⟩
  rw [show daysOfDate yearBounds.1 1 1 = -96465292 by decide] at first
  rw [show daysOfDate yearBounds.2 12 31 = 95026236 by decide] at last
  rw [date]
  unfold daysBefore at days_eq
  simp only [yearBounds]
  -- the first and the last year lie in these eras
  have eras : -656 ≤ era ∧ era ≤ 655 := by omega
  have firstEra : era = -656 → 256 ≤ year ∧ (dayOfYear < 306 → 257 ≤ year) := by
    rintro rfl
    omega
  have lastEra : era = 655 → year ≤ 142 ∧ (306 ≤ dayOfYear → year ≤ 141) := by
    rintro rfl
    omega
  split <;> omega

/-! ### Fields -/

/-- A digit is no white space. -/
theorem isBlank_of_isDigit {c : Char} (digit : c.isDigit) : Text.isBlank c = false := by
  have bounds := Char.isDigit_iff_toNat.mp digit
  simp only [Char.reduceToNat] at bounds
  simp only [Text.isBlank, Bool.or_eq_false_iff, Bool.and_eq_false_iff, decide_eq_false_iff_not,
    beq_eq_false_iff_ne]
  omega

/-- No white space stands in front of a character that is none. -/
theorem dropWhile_isBlank {c : Char} (other : Text.isBlank c = false) (rest : List Char) :
    (c :: rest).dropWhile Text.isBlank = c :: rest := by
  rw [List.dropWhile_cons_of_neg (by simp [other])]

/-- Digits are read up to the sign behind them. -/
theorem readNumber_append {text : List Char} (digits : ∀ c ∈ text, c.isDigit) (some_digit : text ≠ [])
    {most : Nat} (short : text.length ≤ most) {sign : Char} (other : sign.isDigit = false)
    (rest : List Char) :
    readNumber most (text ++ sign :: rest) = some (Nat.ofDigitChars 10 text 0, sign :: rest) := by
  rcases List.exists_cons_of_ne_nil some_digit with ⟨first, tail, text_eq⟩
  have front : (text ++ sign :: rest).dropWhile Text.isBlank = text ++ sign :: rest := by
    rw [text_eq, List.cons_append]
    exact dropWhile_isBlank (isBlank_of_isDigit (digits first (by simp [text_eq]))) _
  have whole : ((text ++ sign :: rest).takeWhile Char.isDigit).take most = text := by
    rw [List.takeWhile_append_of_pos digits, List.takeWhile_cons_of_neg (by simp [other]),
      List.append_nil, List.take_of_length_le short]
  have nonempty : text.isEmpty = false := by simpa using some_digit
  simp only [readNumber, front, whole, nonempty, Bool.false_eq_true, if_false,
    foldl_eq_ofDigitChars, List.drop_left]

/-- A field is read back from its padded digits. -/
theorem readNumber_padLeft {width n : Nat} (positive : 0 < width) (fits : n < 10 ^ width)
    {sign : Char} (other : sign.isDigit = false) (rest : List Char) :
    readNumber width (padLeft width (digits n) ++ sign :: rest) = some (n, sign :: rest) := by
  rw [readNumber_append (fun c => isDigit_of_mem_padLeft) (padLeft_ne_nil width n)
    (length_padLeft positive fits).le other, ofDigitChars_padLeft]

/-- The padded digits of a year behind a sign are read back. -/
theorem readSigned_padLeft (width n : Nat) {sign : Char} (other : sign.isDigit = false)
    (rest : List Char) :
    readSigned (padLeft width (digits n) ++ sign :: rest) = some (n, sign :: rest) := by
  rcases List.exists_cons_of_ne_nil (padLeft_ne_nil width n) with ⟨first, tail, text_eq⟩
  have first_mem : first ∈ padLeft width (digits n) := by simp [text_eq]
  have digit := isDigit_of_mem_padLeft first_mem
  have head : (padLeft width (digits n) ++ sign :: rest).head?.any Char.isDigit := by
    rw [text_eq]
    exact digit
  rw [readSigned, if_pos head, readNumber_append (fun c => isDigit_of_mem_padLeft)
    (padLeft_ne_nil width n) (by simp) other, ofDigitChars_padLeft]

/-- A year is read back. -/
theorem readYear_yearText (year : Int) {sign : Char} (other : sign.isDigit = false)
    (rest : List Char) :
    readYear (yearText year ++ sign :: rest) = some (year, sign :: rest) := by
  unfold yearText
  by_cases plain : 0 ≤ year ∧ year ≤ 9999
  · rw [if_pos plain]
    rcases List.exists_cons_of_ne_nil (padLeft_ne_nil 4 year.toNat) with ⟨first, tail, text_eq⟩
    have first_mem : first ∈ padLeft 4 (digits year.toNat) := by simp [text_eq]
    have digit := isDigit_of_mem_padLeft first_mem
    have fits : year.toNat < 10 ^ 4 := by omega
    have read := readNumber_padLeft (by decide) fits other rest
    rw [text_eq, List.cons_append] at read ⊢
    rw [readYear, dropWhile_isBlank (isBlank_of_isDigit digit)]
    split
    case h_1 same =>
      rw [(List.cons.inj same).1] at digit
      exact absurd digit (by decide)
    case h_2 same =>
      rw [(List.cons.inj same).1] at digit
      exact absurd digit (by decide)
    case h_3 =>
      simp only [read, Option.map_some, Option.some.injEq, Prod.mk.injEq, and_true]
      exact Int.toNat_of_nonneg plain.1
  · rw [if_neg plain, List.cons_append]
    have read := readSigned_padLeft 4 year.natAbs other rest
    by_cases negative : year < 0
    · rw [if_pos negative, readYear, dropWhile_isBlank (by decide)]
      simp only [read, Option.map_some, Option.some.injEq, Prod.mk.injEq, and_true]
      omega
    · rw [if_neg negative, readYear, dropWhile_isBlank (by decide)]
      simp only [read, Option.map_some, Option.some.injEq, Prod.mk.injEq, and_true]
      omega

/-- A sign that separates numbers is read. -/
theorem readSeparator_cons {sign : Char} (other : Text.isBlank sign = false) (rest : List Char) :
    readSeparator sign (sign :: rest) = some rest := by
  rw [readSeparator, dropWhile_isBlank other]
  exact if_pos rfl

/-- A fraction of at most nine digits is read as that many nanoseconds. -/
theorem readNanos_padLeft {width n : Nat} (positive : 0 < width) (short : width ≤ 9)
    (fits : n < 10 ^ width) (rest : List Char) :
    readNanos ('.' :: (padLeft width (digits n) ++ 'Z' :: rest)) =
      some (n * 10 ^ (9 - width), 'Z' :: rest) := by
  have isDigit : ∀ c ∈ padLeft width (digits n), c.isDigit := fun c => isDigit_of_mem_padLeft
  have length := length_padLeft positive fits
  have text : ((padLeft width (digits n) ++ 'Z' :: rest).takeWhile Char.isDigit).take 9 =
      padLeft width (digits n) := by
    rw [List.takeWhile_append_of_pos isDigit, List.takeWhile_cons_of_neg (by decide),
      List.append_nil, List.take_of_length_le (by omega)]
  have behind : (padLeft width (digits n) ++ 'Z' :: rest).dropWhile Char.isDigit = 'Z' :: rest := by
    rw [List.dropWhile_append_of_pos isDigit, List.dropWhile_cons_of_neg (by decide)]
  have nonempty : (padLeft width (digits n)).isEmpty = false := by
    simpa using padLeft_ne_nil width n
  simp only [readNanos, text, behind, nonempty, Bool.false_eq_true, if_false,
    foldl_eq_ofDigitChars, ofDigitChars_padLeft, length]
  rfl

/-- The nanoseconds of a second are read back, however many digits they are written with. -/
theorem readNanos_fractionText {nanos : Nat} (small : nanos < 1000000000) (rest : List Char) :
    readNanos (fractionText nanos ++ 'Z' :: rest) = some (nanos, 'Z' :: rest) := by
  unfold fractionText
  split
  case isTrue zero =>
    subst zero
    rfl
  case isFalse =>
    split
    case isTrue millis =>
      rw [List.cons_append, readNanos_padLeft (by decide) (by decide) (by omega)]
      simp only [Option.some.injEq, Prod.mk.injEq, and_true]
      omega
    case isFalse =>
      split
      case isTrue micros =>
        rw [List.cons_append, readNanos_padLeft (by decide) (by decide) (by omega)]
        simp only [Option.some.injEq, Prod.mk.injEq, and_true]
        omega
      case isFalse =>
        rw [List.cons_append, readNanos_padLeft (by decide) (by decide) (by omega)]
        simp

/-! ### The text -/

/-- What an instant can be: it lies in the years of the calendar, and has the nanoseconds of a
second or, at the end of a minute, those of a leap second. -/
structure Valid (t : Timestamp) : Prop where
  first : secondBounds.1 ≤ t.seconds
  last : t.seconds ≤ secondBounds.2
  nanos : t.nanos < 2000000000
  leap : 1000000000 ≤ t.nanos → t.seconds.fmod 60 = 59

/-- A month has at most thirty-one days. -/
theorem daysInMonth_le (year : Int) (month : Nat) : daysInMonth year month ≤ 31 := by
  simp only [daysInMonth]
  split_ifs <;> omega

/-- Behind the seconds of an instant stands no digit. -/
theorem exists_fractionText (nanos : Nat) :
    ∃ sign rest, fractionText nanos ++ ['Z'] = sign :: rest ∧ sign.isDigit = false := by
  unfold fractionText
  split_ifs
  · exact ⟨'Z', [], rfl, by decide⟩
  all_goals exact ⟨'.', _, rfl, by decide⟩

/-- The second and the fraction that are written of a time of day, where a leap second is the
sixtieth, are in bounds and are taken back to what they were. -/
theorem second_written {ofDay nanos : Nat} (nanos_lt : nanos < 2000000000)
    (leap : 1000000000 ≤ nanos → ofDay % 60 = 59) {second fraction : Nat}
    (second_eq : (if 1000000000 ≤ nanos then ofDay % 60 + 1 else ofDay % 60) = second)
    (fraction_eq : (if 1000000000 ≤ nanos then nanos - 1000000000 else nanos) = fraction) :
    second ≤ 60 ∧ fraction < 1000000000 ∧
      (if second = 60 then (59, fraction + 1000000000) else (second, fraction)) =
        (ofDay % 60, nanos) := by
  by_cases isLeap : 1000000000 ≤ nanos
  · have last_of_minute := leap isLeap
    rw [if_pos isLeap] at second_eq fraction_eq
    rw [if_pos (by omega), Prod.mk.injEq]
    omega
  · rw [if_neg isLeap] at second_eq fraction_eq
    rw [if_neg (by omega), second_eq, fraction_eq]
    exact ⟨by omega, by omega, rfl⟩

/-- An instant is read back from its text. -/
theorem parse?_text {t : Timestamp} (valid : t.Valid) : parse? t.text = some t := by
  rcases t with ⟨seconds, nanos⟩
  rcases valid with ⟨first, last, nanos_lt, leap⟩
  simp only at first last nanos_lt leap
  have floor : seconds.fdiv 86400 = seconds / 86400 := Int.fdiv_eq_ediv_of_nonneg _ (by decide)
  have rest : seconds.fmod 86400 = seconds % 86400 := Int.fmod_eq_emod_of_nonneg _ (by decide)
  rw [Int.fmod_eq_emod_of_nonneg _ (by decide)] at leap
  have day_eq := daysOfDate_dateOfDays (seconds / 86400)
  have day_mem := dateOfDays_mem (seconds / 86400)
  have first_day : daysOfDate yearBounds.1 1 1 ≤ seconds / 86400 := by
    rw [secondBounds] at first
    omega
  have last_day : seconds / 86400 ≤ daysOfDate yearBounds.2 12 31 := by
    rw [secondBounds] at last
    omega
  have year_mem := year_dateOfDays_mem first_day last_day
  rw [text, floor, rest]
  generalize dateOfDays (seconds / 86400) = date at day_eq day_mem year_mem ⊢
  rcases date with ⟨year, month, day⟩
  simp only at day_eq day_mem year_mem
  rcases day_mem with ⟨⟨month_pos, month_le⟩, day_pos, day_le⟩
  have day_small := day_le.trans (daysInMonth_le year month)
  generalize ofDay_eq : (seconds % 86400).toNat = ofDay
  -- a leap second is written as the sixtieth
  generalize second_eq : (if 1000000000 ≤ nanos then ofDay % 60 + 1 else ofDay % 60) = second
  generalize fraction_eq : (if 1000000000 ≤ nanos then nanos - 1000000000 else nanos) = fraction
  rcases second_written nanos_lt (fun isLeap => by have := leap isLeap; omega) second_eq fraction_eq
    with ⟨second_le, fraction_lt, folded⟩
  have fractionRead := readNanos_fractionText fraction_lt []
  rcases exists_fractionText fraction with ⟨sign, behind, fraction_text, sign_other⟩
  rw [fraction_text] at fractionRead
  simp only [parse?, String.toList_ofList, List.append_assoc, List.cons_append, bind, Option.bind,
    readYear_yearText year (show '-'.isDigit = false by decide),
    readSeparator_cons (show Text.isBlank '-' = false by decide),
    readSeparator_cons (show Text.isBlank ':' = false by decide),
    readNumber_padLeft (show 0 < 2 by decide) (show month < 10 ^ 2 by omega)
      (show '-'.isDigit = false by decide),
    readNumber_padLeft (show 0 < 2 by decide) (show day < 10 ^ 2 by omega)
      (show 'T'.isDigit = false by decide),
    readNumber_padLeft (show 0 < 2 by decide) (show ofDay / 3600 < 10 ^ 2 by omega)
      (show ':'.isDigit = false by decide),
    readNumber_padLeft (show 0 < 2 by decide) (show ofDay / 60 % 60 < 10 ^ 2 by omega)
      (show ':'.isDigit = false by decide)]
  rw [second_eq, fraction_eq, fraction_text]
  have separator : ¬(!('T' == 't' || 'T' == 'T' || 'T' == ' ')) = true := by decide
  have offset : readOffset ['Z'] = some (0, []) := rfl
  have noYear : ¬(year < yearBounds.1 ∨ yearBounds.2 < year ∨ month < 1 ∨ 12 < month) := by omega
  have noDay : ¬(day < 1 ∨ daysInMonth year month < day) := by omega
  have noTime : ¬(23 < ofDay / 3600 ∨ 59 < ofDay / 60 % 60 ∨ 60 < second) := by omega
  have whole : daysOfDate year month day * 86400 +
      ((ofDay / 3600 * 3600 + ofDay / 60 % 60 * 60 + ofDay % 60 : Nat) : Int) - 0 * 60 = seconds := by
    omega
  simp only [separator, if_false, readNumber_padLeft (show 0 < 2 by decide)
    (show second < 10 ^ 2 by omega) sign_other, fractionRead, offset, folded, noYear, noDay, noTime,
    whole, not_lt.mpr first, not_lt.mpr last, or_self, List.dropWhile_nil, List.isEmpty_nil,
    Bool.not_true, Bool.false_eq_true]
  rfl

end Occupancy.Timestamp
