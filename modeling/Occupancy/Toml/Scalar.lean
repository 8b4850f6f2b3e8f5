/-
Module: Occupancy.Toml.Scalar
Purpose: Reading the texts, numbers and moments of TOML.
Main exports: skipBlank, skipComment, readLineEnd, readText, readNumber?, readMoment?
-/
import Occupancy.Toml.Value

namespace Occupancy.Toml

/-!
A reader gives what it has read and the text behind it, or nothing if the text is not TOML.
-/

/-- Pass over spaces and tabs. -/
def skipBlank : List Char → List Char := List.dropWhile fun c => c == ' ' || c == '\t'

/-- Characters that a comment or a text may hold: all but the control characters, of which a tab is
allowed. -/
def isPlain (c : Char) : Bool := c == '\t' || (0x20 ≤ c.toNat && c.toNat != 0x7F)

/-- Pass over a comment, if there is one. -/
def skipComment (cs : List Char) : List Char :=
  match cs with
  | '#' :: rest => rest.dropWhile isPlain
  | _ => cs

/-- Pass over the end of a line: a line feed, behind a carriage return or not. -/
def readLineEnd (cs : List Char) : Option (List Char) :=
  match cs with
  | '\n' :: rest => some rest
  | '\r' :: '\n' :: rest => some rest
  | _ => none

/-- Pass over blanks and line ends. The fuel bounds the lines. -/
def skipBlankLines : (fuel : Nat) → List Char → List Char
  | 0, cs => cs
  | fuel + 1, cs =>
    match readLineEnd (skipBlank cs) with
    | some rest => skipBlankLines fuel rest
    | none => skipBlank cs

/-- Pass over blanks, comments and line ends. A comment ends with its line. The fuel bounds the
lines. -/
def skipLines : (fuel : Nat) → List Char → Option (List Char)
  | 0, cs => some cs
  | fuel + 1, cs =>
    let cs := skipBlank cs
    match cs with
    | '#' :: _ => do skipLines fuel (← readLineEnd (skipComment cs))
    | '\n' :: rest => skipLines fuel rest
    | '\r' :: _ => do skipLines fuel (← readLineEnd cs)
    | _ => some cs

/-! ### Texts -/

/-- The value of a hexadecimal digit. -/
def hexValue? (c : Char) : Option Nat :=
  if c.isDigit then some (c.toNat - 0x30)
  else if 'a' ≤ c ∧ c ≤ 'f' then some (c.toNat - 0x57)
  else if 'A' ≤ c ∧ c ≤ 'F' then some (c.toNat - 0x37)
  else none

/-- Read a code point with so many hexadecimal digits. -/
def readCodePoint (width : Nat) (cs : List Char) : Option (Char × List Char) := do
  let digits := cs.take width
  if digits.length < width then none
  let n := (← digits.mapM hexValue?).foldl (fun n d => n * 16 + d) 0
  if n.isValidChar then return (Char.ofNat n, cs.drop width) else none

/-- Read what follows a backslash. -/
def readEscape (cs : List Char) : Option (Char × List Char) :=
  match cs with
  | 'b' :: rest => some ('\x08', rest)
  | 't' :: rest => some ('\t', rest)
  | 'n' :: rest => some ('\n', rest)
  | 'f' :: rest => some ('\x0C', rest)
  | 'r' :: rest => some ('\r', rest)
  | '"' :: rest => some ('"', rest)
  | '\\' :: rest => some ('\\', rest)
  | 'u' :: rest => readCodePoint 4 rest
  | 'U' :: rest => readCodePoint 8 rest
  | _ => none

/-- Read a text on one line up to its quote; only in double quotes does a backslash mean something.
The fuel bounds the characters. -/
def readLineText (quote : Char) : (fuel : Nat) → (taken : List Char) → List Char →
    Option (String × List Char)
  | 0, _, _ => none
  | fuel + 1, taken, cs =>
    match cs with
    | [] => none
    | c :: rest =>
      if c = quote then some (String.ofList taken.reverse, rest)
      else if c = '\\' ∧ quote = '"' then do
        let (c, rest) ← readEscape rest
        readLineText quote fuel (c :: taken) rest
      else if isPlain c then readLineText quote fuel (c :: taken) rest
      else none

/-- Read a text on several lines up to its three quotes. One or two more quotes before them belong to
the text. Behind a backslash the end of a line and all blanks up to the next character are passed
over. The fuel bounds the characters. -/
def readBlockText (quote : Char) : (fuel : Nat) → (taken : List Char) → List Char →
    Option (String × List Char)
  | 0, _, _ => none
  | fuel + 1, taken, cs =>
    match cs with
    | [] => none
    | c :: rest =>
      if c = quote then
        let run := (cs.takeWhile (· == quote)).length
        if run < 3 then readBlockText quote fuel (quote :: taken) rest
        else
          let more := min (run - 3) 2
          some (String.ofList (List.replicate more quote ++ taken).reverse, cs.drop (more + 3))
      else if c = '\\' ∧ quote = '"' then
        match readLineEnd (skipBlank rest) with
        | some behind => readBlockText quote fuel taken (skipBlankLines (behind.length + 1) behind)
        | none => do
          let (c, rest) ← readEscape rest
          readBlockText quote fuel (c :: taken) rest
      else
        match readLineEnd cs with
        | some rest => readBlockText quote fuel ('\n' :: taken) rest
        | none => if isPlain c then readBlockText quote fuel (c :: taken) rest else none

/-- Read a text behind its first quote. A line end right behind three quotes is passed over. -/
def readText (quote : Char) (cs : List Char) : Option (String × List Char) :=
  let fuel := cs.length + 1
  match cs with
  | a :: b :: rest =>
    if a = quote ∧ b = quote then readBlockText quote fuel [] ((readLineEnd rest).getD rest)
    else readLineText quote fuel [] cs
  | _ => readLineText quote fuel [] cs

/-! ### Numbers -/

/-- Read digits with a test, between which single low lines may stand. Gives the digits alone. -/
def readDigits (test : Char → Bool) : List Char → Option (List Char × List Char)
  | [] => none
  | [c] => if test c then some ([c], []) else none
  | c :: '_' :: rest =>
    if test c then (readDigits test rest).map fun (digits, rest) => (c :: digits, rest) else none
  | c :: d :: rest =>
    if !test c then none
    else if test d then
      (readDigits test (d :: rest)).map fun (digits, rest) => (c :: digits, rest)
    else some ([c], d :: rest)

/-- Read a sign; gives whether it is a minus. -/
def readSign (cs : List Char) : Bool × List Char :=
  match cs with
  | '-' :: rest => (true, rest)
  | '+' :: rest => (false, rest)
  | _ => (false, cs)

/-- The value of digits in a base. -/
def digitsValue (base : Nat) (digits : List Char) : Nat :=
  digits.foldl (fun n d => n * base + (hexValue? d).getD 0) 0

/-- An integer, which has to fit into 64 bits. -/
def integer? (negative : Bool) (n : Nat) : Option Value :=
  if negative then if n ≤ 0x8000000000000000 then some (.integer (-n)) else none
  else if n < 0x8000000000000000 then some (.integer n) else none

/-- Read an exponent, if there is one. -/
def readExponent (cs : List Char) : Option (Option Int × List Char) :=
  match cs with
  | 'e' :: rest | 'E' :: rest => do
    let (negative, rest) := readSign rest
    let (digits, rest) ← readDigits Char.isDigit rest
    let n : Int := digitsValue 10 digits
    return (some (if negative then -n else n), rest)
  | _ => some (none, cs)

/-- The order of magnitude past which every decimal is past all doubles, or nearer to zero than all
of them. -/
def orderLimit : Int := 400

/-- The double nearest to a decimal, `digits * 10 ^ exponent`. -/
def nearestFloat (digits : List Char) (exponent : Int) : Float :=
  let n := digitsValue 10 digits
  let order := exponent + digits.length
  if n = 0 ∨ order < -orderLimit then 0.0
  else if orderLimit < order - (digits.takeWhile (· == '0')).length then 1.0 / 0.0
  else
    match exponent with
    | .ofNat e => Float.ofScientific n false e
    | .negSucc e => Float.ofScientific n true (e + 1)

/-- Read a number. A whole part has no zeros in front; one with a point or an exponent behind it is a
double, and no positive double may be past all others. -/
def readNumber? (cs : List Char) : Option (Value × List Char) := do
  let based (base : Nat) (test : Char → Bool) (rest : List Char) : Option (Value × List Char) := do
    let (digits, rest) ← readDigits test rest
    return (← integer? false (digitsValue base digits), rest)
  match cs with
  | '0' :: 'x' :: rest => based 16 (fun c => (hexValue? c).isSome) rest
  | '0' :: 'o' :: rest => based 8 (fun c => '0' ≤ c && c ≤ '7') rest
  | '0' :: 'b' :: rest => based 2 (fun c => c == '0' || c == '1') rest
  | _ =>
    let (negative, rest) := readSign cs
    match rest with
    | 'i' :: 'n' :: 'f' :: rest => return (.float (if negative then -1.0 / 0.0 else 1.0 / 0.0), rest)
    | 'n' :: 'a' :: 'n' :: rest => return (.float (0.0 / 0.0), rest)
    | _ =>
      let (whole, rest) ← readDigits Char.isDigit rest
      if whole.head? = some '0' ∧ 1 < whole.length then none
      let (fraction, behind) ← (match rest with
        | '.' :: rest => readDigits Char.isDigit rest
        | _ => some ([], rest))
      let (exponent, behind) ← readExponent behind
      if fraction.isEmpty ∧ exponent.isNone then
        return (← integer? negative (digitsValue 10 whole), behind)
      let x := nearestFloat (whole ++ fraction) (exponent.getD 0 - fraction.length)
      if x.isInf && !negative then none
      return (.float (if negative then -x else x), behind)

/-! ### Moments -/

/-- Read a number of exactly so many digits, within bounds. -/
def readField (width low high : Nat) (cs : List Char) : Option (Nat × List Char) :=
  let digits := cs.take width
  let n := digitsValue 10 digits
  if digits.length = width ∧ digits.all Char.isDigit ∧ low ≤ n ∧ n ≤ high then
    some (n, cs.drop width)
  else none

/-- Pass over a sign. -/
def readChar (c : Char) (cs : List Char) : Option (List Char) :=
  match cs with
  | d :: rest => if d = c then some rest else none
  | [] => none

/-- The number of days in a month. -/
def daysInMonth (year month : Nat) : Nat :=
  let leap := year % 4 = 0 ∧ (year % 100 ≠ 0 ∨ year % 400 = 0)
  if month = 2 then if leap then 29 else 28
  else if month = 4 ∨ month = 6 ∨ month = 9 ∨ month = 11 then 30
  else 31

/-- Pass over a date. -/
def readDate (cs : List Char) : Option (List Char) := do
  let (year, cs) ← readField 4 0 9999 cs
  let (month, cs) ← readField 2 1 12 (← readChar '-' cs)
  let (_, cs) ← readField 2 1 (daysInMonth year month) (← readChar '-' cs)
  return cs

/-- Pass over a time of day. A point is followed by a digit at least. -/
def readTime (cs : List Char) : Option (List Char) := do
  let (_, cs) ← readField 2 0 23 cs
  let (_, cs) ← readField 2 0 59 (← readChar ':' cs)
  let (_, cs) ← readField 2 0 60 (← readChar ':' cs)
  match cs with
  | '.' :: rest =>
    if rest.head?.any Char.isDigit then return rest.dropWhile Char.isDigit else none
  | _ => return cs

/-- Pass over the distance from UTC, if there is one. -/
def readOffset (cs : List Char) : Option (List Char) :=
  match cs with
  | 'Z' :: rest | 'z' :: rest => some rest
  | '+' :: rest | '-' :: rest => do
    let (_, rest) ← readField 2 0 23 rest
    let (_, rest) ← readField 2 0 59 (← readChar ':' rest)
    return rest
  | _ => some cs

/-- Whether a date or a time of day begins here: digits and the sign that no number has there. -/
def isMoment (cs : List Char) : Bool :=
  (cs.take 4).all Char.isDigit && cs[4]? == some '-' ||
    (cs.take 2).all Char.isDigit && cs[2]? == some ':'

/-- Read a date, a time of day, or both with a letter or a space between them and the distance from
UTC behind. What follows a date is a time only if it begins like one. -/
def readMoment? (cs : List Char) : Option (Value × List Char) := do
  let rest ←
    if cs[2]? == some ':' then readTime cs
    else
      let behind ← readDate cs
      match behind with
      | c :: time =>
        if (c = 'T' ∨ c = 't' ∨ c = ' ') ∧ (readField 2 0 23 time).isSome ∧ time[2]? = some ':' then
          readOffset (← readTime time)
        else some behind
      | [] => some []
  return (.moment (String.ofList (cs.take (cs.length - rest.length))), rest)

end Occupancy.Toml
