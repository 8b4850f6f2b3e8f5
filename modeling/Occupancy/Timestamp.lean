/-
Module: Occupancy.Timestamp
Purpose: Instants of time and their texts.
Main exports: Timestamp, Timestamp.parse?, Timestamp.text
-/
import Occupancy.Decimal.Binary64
import Occupancy.Text.Blank

namespace Occupancy

open Decimal (digits padLeft)

/-- An instant: seconds since the beginning of 1970 in UTC, and nanoseconds. A leap second keeps the
seconds of the one before it and has more than a second of nanoseconds. -/
structure Timestamp where
  seconds : Int
  nanos : Nat
deriving DecidableEq, Repr, Inhabited

namespace Timestamp

/-! The calendar is counted from the first of March of the year zero: then a leap day is the last day
of its year, and the months but the last make a pattern of five. -/

/-- Days from the beginning of 1970 to a date of the Gregorian calendar. -/
def daysOfDate (year : Int) (month day : Nat) : Int :=
  let year := if month ≤ 2 then year - 1 else year
  let era := year.fdiv 400
  let yearOfEra := year.fmod 400
  let monthFromMarch := (month + 9) % 12
  let dayOfYear : Int := (153 * monthFromMarch + 2) / 5 + day - 1
  era * 146097 + (yearOfEra * 365 + yearOfEra / 4 - yearOfEra / 100 + dayOfYear) - 719468

/-- The date so many days from the beginning of 1970: year, month and day. -/
def dateOfDays (days : Int) : Int × Nat × Nat :=
  let days := days + 719468
  let era := days.fdiv 146097
  let dayOfEra := days.fmod 146097
  let yearOfEra := (dayOfEra - dayOfEra / 1460 + dayOfEra / 36524 - dayOfEra / 146096) / 365
  let dayOfYear := (dayOfEra - (365 * yearOfEra + yearOfEra / 4 - yearOfEra / 100)).toNat
  let monthFromMarch := (5 * dayOfYear + 2) / 153
  let day := dayOfYear - (153 * monthFromMarch + 2) / 5 + 1
  let month := if monthFromMarch < 10 then monthFromMarch + 3 else monthFromMarch - 9
  (yearOfEra + era * 400 + if month ≤ 2 then 1 else 0, month, day)

/-- The years that a date can lie in. -/
def yearBounds : Int × Int := (-262143, 262142)

/-- The first and last second of those years. -/
def secondBounds : Int × Int :=
  (daysOfDate yearBounds.1 1 1 * 86400, daysOfDate yearBounds.2 12 31 * 86400 + 86399)

/-- The number of days in a month. -/
def daysInMonth (year : Int) (month : Nat) : Nat :=
  let leap := year.fmod 4 = 0 ∧ (year.fmod 100 ≠ 0 ∨ year.fmod 400 = 0)
  if month = 2 then if leap then 29 else 28
  else if month = 4 ∨ month = 6 ∨ month = 9 ∨ month = 11 then 30
  else 31

/-! ### Reading -/

/-- Read a number of at least one and at most so many digits, behind white space. -/
def readNumber (most : Nat) (cs : List Char) : Option (Nat × List Char) :=
  let cs := cs.dropWhile Text.isBlank
  let text := (cs.takeWhile Char.isDigit).take most
  if text.isEmpty then none
  else some (text.foldl (fun n d => n * 10 + (d.toNat - 0x30)) 0, cs.drop text.length)

/-- Read digits behind a sign. -/
def readSigned (cs : List Char) : Option (Nat × List Char) :=
  if cs.head?.any Char.isDigit then readNumber cs.length cs else none

/-- Read a year: four digits at most, or any number of them behind a sign. -/
def readYear (cs : List Char) : Option (Int × List Char) :=
  match cs.dropWhile Text.isBlank with
  | '-' :: rest => (readSigned rest).map fun (n, rest) => (-(n : Int), rest)
  | '+' :: rest => (readSigned rest).map fun (n, rest) => ((n : Int), rest)
  | cs => (readNumber 4 cs).map fun (n, rest) => ((n : Int), rest)

/-- Read a sign that separates numbers, behind white space. -/
def readSeparator (sign : Char) (cs : List Char) : Option (List Char) :=
  match cs.dropWhile Text.isBlank with
  | c :: rest => if c = sign then some rest else none
  | [] => none

/-- Read nanoseconds behind a point. Digits past the ninth make no difference. -/
def readNanos (cs : List Char) : Option (Nat × List Char) :=
  match cs with
  | '.' :: rest =>
    let text := (rest.takeWhile Char.isDigit).take 9
    if text.isEmpty then none
    else
      let n := text.foldl (fun n d => n * 10 + (d.toNat - 0x30)) 0
      some (n * Nat.pow 10 (9 - text.length), rest.dropWhile Char.isDigit)
  | _ => some (0, cs)

/-- Read the distance from UTC in minutes: a letter, a name, or hours and minutes behind a sign. -/
def readOffset (cs : List Char) : Option (Int × List Char) := do
  match cs.dropWhile Text.isBlank with
  | 'Z' :: rest | 'z' :: rest => return (0, rest)
  | cs =>
    if (cs.take 3).map Char.toUpper = "UTC".toList then return (0, cs.drop 3)
    let (sign, cs) ← (match cs with
      | '+' :: rest => some ((1 : Int), rest)
      | '-' :: rest | '\u2212' :: rest => some (-1, rest)
      | _ => none)
    let h1 :: h2 :: cs := cs | none
    let m1 :: m2 :: rest := cs.dropWhile (fun c => c == ':' || Text.isBlank c) | none
    if !(h1.isDigit && h2.isDigit && m1.isDigit && m2.isDigit && m1.toNat < 0x36) then none
    let hours := (h1.toNat - 0x30) * 10 + (h2.toNat - 0x30)
    let minutes := (m1.toNat - 0x30) * 10 + (m2.toNat - 0x30)
    if 24 ≤ hours then none
    return (sign * (hours * 60 + minutes : Nat), rest)

/-- Read an instant: a date, a letter or a blank, a time of day, and the distance from UTC. White
space may stand before each number and each sign. A sixtieth second is a leap second. -/
def parse? (text : String) : Option Timestamp := do
  let (year, cs) ← readYear text.toList
  let (month, cs) ← readNumber 2 (← readSeparator '-' cs)
  let (day, cs) ← readNumber 2 (← readSeparator '-' cs)
  let separator :: cs := cs | none
  if !(separator == 't' || separator == 'T' || separator == ' ') then none
  let (hour, cs) ← readNumber 2 cs
  let (minute, cs) ← readNumber 2 (← readSeparator ':' cs)
  let (second, cs) ← readNumber 2 (← readSeparator ':' cs)
  let (nanos, cs) ← readNanos cs
  let (offset, cs) ← readOffset cs
  if !(cs.dropWhile Text.isBlank).isEmpty then none
  if year < yearBounds.1 ∨ yearBounds.2 < year ∨ month < 1 ∨ 12 < month then none
  if day < 1 ∨ daysInMonth year month < day then none
  if 23 < hour ∨ 59 < minute ∨ 60 < second then none
  let (second, nanos) := if second = 60 then (59, nanos + 1000000000) else (second, nanos)
  let seconds : Int :=
    daysOfDate year month day * 86400 + (hour * 3600 + minute * 60 + second : Nat) - offset * 60
  if seconds < secondBounds.1 ∨ secondBounds.2 < seconds then none
  return ⟨seconds, nanos⟩

/-! ### Writing -/

/-- A year: four digits, with a sign if they are not enough or the year is negative. -/
def yearText (year : Int) : List Char :=
  if 0 ≤ year ∧ year ≤ 9999 then padLeft 4 (digits year.toNat)
  else (if year < 0 then '-' else '+') :: padLeft 4 (digits year.natAbs)

/-- A fraction of a second: none, or three, six or nine digits, whichever is enough. -/
def fractionText (nanos : Nat) : List Char :=
  if nanos = 0 then []
  else if nanos % 1000000 = 0 then '.' :: padLeft 3 (digits (nanos / 1000000))
  else if nanos % 1000 = 0 then '.' :: padLeft 6 (digits (nanos / 1000))
  else '.' :: padLeft 9 (digits nanos)

/-- The text of an instant, in UTC. -/
def text (t : Timestamp) : String :=
  let (year, month, day) := dateOfDays (t.seconds.fdiv 86400)
  let ofDay := (t.seconds.fmod 86400).toNat
  let leap := 1000000000 ≤ t.nanos
  let second := if leap then ofDay % 60 + 1 else ofDay % 60
  let nanos := if leap then t.nanos - 1000000000 else t.nanos
  let two (n : Nat) := padLeft 2 (digits n)
  String.ofList (yearText year ++ '-' :: two month ++ '-' :: two day ++
    'T' :: two (ofDay / 3600) ++ ':' :: two (ofDay / 60 % 60) ++ ':' :: two second ++
    fractionText nanos ++ ['Z'])

end Timestamp
end Occupancy
