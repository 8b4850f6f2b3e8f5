/-
Module: Occupancy.Json.Token
Purpose: Reading the words, numbers and strings of JSON.
Main exports: Fault, skipBlank, readWord, readString, Number, readNumber, ignoreValue
-/

namespace Occupancy.Json

/-!
Reading goes over the text once and stops at the first fault in it. What the fault is depends on what
comes first: text that is no JSON, JSON that is not of the kind that is wanted, or the end.
-/

/-- Why a text is not read. -/
inductive Fault where
  | malformed
  | mismatch
  | unfinished
deriving DecidableEq, Repr

/-- The text behind the blanks that may stand between tokens. -/
def skipBlank : List Char → List Char :=
  List.dropWhile fun c => c == ' ' || c == '\n' || c == '\t' || c == '\r'

/-- Read the letters of a word. -/
def readWord : (letters : List Char) → List Char → Except Fault (List Char)
  | [], cs => .ok cs
  | _ :: _, [] => .error .unfinished
  | letter :: letters, c :: rest =>
    if c = letter then readWord letters rest else .error .malformed

/-- The value of a hexadecimal digit. -/
def hexValue? (c : Char) : Option Nat :=
  if c.isDigit then some (c.toNat - 0x30)
  else if 'a' ≤ c ∧ c ≤ 'f' then some (c.toNat - 0x57)
  else if 'A' ≤ c ∧ c ≤ 'F' then some (c.toNat - 0x37)
  else none

/-- The state inside a string: between characters, behind a backslash, inside a number of four
hexadecimal digits, or between the two numbers of a pair of surrogates. A number keeps its value as
long as it has one, the bytes read of it, and the first surrogate of the pair that it ends. -/
inductive StringState where
  | plain
  | escape
  | hex (value : Option Nat) (bytes : Nat) (lead : Option Nat)
  | pairBackslash (lead : Nat)
  | pairLetter (lead : Nat)
deriving DecidableEq, Repr

/-- What one character of a string does: it completes nothing, a character, or the string. -/
inductive StringStep where
  | go (state : StringState)
  | emit (c : Char)
  | close
deriving DecidableEq, Repr

/-- The number of a hexadecimal escape is complete. A lone surrogate is no character; where
characters do not matter it is let pass. -/
def endHex (strict : Bool) (n : Nat) (lead : Option Nat) : Except Fault StringStep :=
  if !strict then .ok (.go .plain)
  else
    match lead with
    | none =>
      if 0xD800 ≤ n ∧ n < 0xDC00 then .ok (.go (.pairBackslash n))
      else if 0xDC00 ≤ n ∧ n < 0xE000 then .error .malformed
      else .ok (.emit (Char.ofNat n))
    | some lead =>
      if 0xDC00 ≤ n ∧ n < 0xE000 then
        .ok (.emit (Char.ofNat (0x10000 + (lead - 0xD800) * 0x400 + (n - 0xDC00))))
      else .error .malformed

/-- Take one character of a string. -/
def stringStep (strict : Bool) (state : StringState) (c : Char) : Except Fault StringStep :=
  match state with
  | .plain =>
    if c = '"' then .ok .close
    else if c = '\\' then .ok (.go .escape)
    else if c.toNat < 0x20 then .error .malformed
    else .ok (.emit c)
  | .escape =>
    match c with
    | '"' | '\\' | '/' => .ok (.emit c)
    | 'b' => .ok (.emit '\x08')
    | 'f' => .ok (.emit '\x0C')
    | 'n' => .ok (.emit '\n')
    | 'r' => .ok (.emit '\r')
    | 't' => .ok (.emit '\t')
    | 'u' => .ok (.go (.hex (some 0) 0 none))
    | _ => .error .malformed
  | .hex value bytes lead =>
    let value := do return (← value) * 16 + (← hexValue? c)
    let bytes := bytes + c.utf8Size
    if bytes < 4 then .ok (.go (.hex value bytes lead))
    else
      match value with
      | some n => endHex strict n lead
      | none => .error .malformed
  | .pairBackslash lead => if c = '\\' then .ok (.go (.pairLetter lead)) else .error .malformed
  | .pairLetter lead => if c = 'u' then .ok (.go (.hex (some 0) 0 (some lead))) else .error .malformed

/-- Read a string behind its opening quote. The characters read so far are kept backwards. -/
def readStringFrom (strict : Bool) (state : StringState) (taken : List Char) :
    List Char → Except Fault (List Char × List Char)
  | [] => .error .unfinished
  | c :: rest =>
    match stringStep strict state c with
    | .error fault => .error fault
    | .ok .close => .ok (taken.reverse, rest)
    | .ok (.emit c) => readStringFrom strict .plain (c :: taken) rest
    | .ok (.go state) => readStringFrom strict state taken rest

/-- Read a string behind its opening quote. -/
def readString (cs : List Char) : Except Fault (List Char × List Char) :=
  readStringFrom true .plain [] cs

/-- A number as it is read: a whole one within 64 bits, or a double. A negative whole number is given
by its distance from zero. -/
inductive Number where
  | natural (n : Nat)
  | negative (n : Nat)
  | float (x : Float)
deriving Repr

/-- The greatest significand: digits that would lead past it are not taken in. -/
def significandLimit : Nat := UInt64.size

/-- The greatest power of ten that is a double. -/
def powerLimit : Nat := 308

/-- A significand times a power of ten, by the operations of doubles: one product or quotient with a
power of ten, after quotients with the greatest one while the exponent is below its negative. The
result can therefore miss the nearest double. A value past the greatest double is refused. The fuel
bounds the quotients. -/
def scale (x : Float) : (fuel : Nat) → (exponent : Int) → Except Fault Float
  | 0, _ => .ok x
  | fuel + 1, exponent =>
    if exponent.natAbs ≤ powerLimit then
      let power := Float.ofScientific 1 false exponent.natAbs
      if 0 ≤ exponent then
        let y := x * power
        if y.isInf then .error .malformed else .ok y
      else .ok (x / power)
    else if x == 0.0 then .ok x
    else if 0 ≤ exponent then .error .malformed
    else scale (x / Float.ofScientific 1 false powerLimit) fuel (exponent + powerLimit)

/-- The double with a sign, a significand and a power of ten. Four quotients make any significand
zero. -/
def assemble (negative : Bool) (significand : Nat) (exponent : Int) : Except Fault Float := do
  let x ← scale (UInt64.ofNat significand).toFloat 8 exponent
  return if negative then -x else x

/-- The digits at the beginning of a text, and the rest. -/
def spanDigits (cs : List Char) : List Char × List Char :=
  (cs.takeWhile Char.isDigit, cs.dropWhile Char.isDigit)

/-- Take digits into a significand as long as it stays below the limit. Gives the digits that are
left. -/
def takeDigits (significand : Nat) : List Char → Nat × List Char
  | [] => (significand, [])
  | c :: rest =>
    let next := significand * 10 + (c.toNat - 0x30)
    if next < significandLimit then takeDigits next rest else (significand, c :: rest)

/-- The greatest exponent that is told from greater ones. -/
def exponentLimit : Nat := 0x80000000

/-- The end of a number: its exponent, if it has one. -/
def readExponent (negative : Bool) (significand : Nat) (exponent : Int) (cs : List Char) :
    Except Fault (Float × List Char) := do
  match cs with
  | 'e' :: rest | 'E' :: rest =>
    let (down, rest) := match rest with
      | '+' :: rest => (false, rest)
      | '-' :: rest => (true, rest)
      | _ => (false, rest)
    let (digits, behind) := spanDigits rest
    if digits.isEmpty then throw (if rest.isEmpty then .unfinished else .malformed)
    let n := digits.foldl (fun n d => n * 10 + (d.toNat - 0x30)) 0
    if exponentLimit ≤ n then
      if significand != 0 && !down then throw .malformed
      return (if negative then -0.0 else 0.0, behind)
    return (← assemble negative significand (if down then exponent - n else exponent + n), behind)
  | _ => return (← assemble negative significand exponent, cs)

/-- The part of a number behind its point. Digits that the significand cannot take are passed
over. -/
def readFraction (negative : Bool) (significand : Nat) (exponent : Int) (cs : List Char) :
    Except Fault (Float × List Char) := do
  let (digits, rest) := spanDigits cs
  let (significand, left) := takeDigits significand digits
  if digits.isEmpty then throw (if rest.isEmpty then .unfinished else .malformed)
  readExponent negative significand (exponent - (digits.length - left.length : Nat)) rest

/-- Read a number behind its sign. Digits before the point that the significand cannot take count as
zeros; such a number, and one with a point or an exponent, is a double. So is minus zero, and a
negative whole number below the least one of 64 bits. -/
def readNumber (negative : Bool) (cs : List Char) : Except Fault (Number × List Char) := do
  let (digits, rest) := spanDigits cs
  if digits.isEmpty then throw (if rest.isEmpty then .unfinished else .malformed)
  if digits.head? = some '0' ∧ 1 < digits.length then throw .malformed
  let (significand, left) := takeDigits 0 digits
  match rest with
  | '.' :: rest =>
    let (x, rest) ← readFraction negative significand left.length rest
    return (.float x, rest)
  | 'e' :: _ | 'E' :: _ =>
    let (x, rest) ← readExponent negative significand left.length rest
    return (.float x, rest)
  | _ =>
    if !left.isEmpty then
      let x ← assemble negative significand left.length
      return (.float x, rest)
    else if !negative then return (.natural significand, rest)
    else if significand = 0 ∨ 0x8000000000000000 < significand then
      return (.float (-(UInt64.ofNat significand).toFloat), rest)
    else return (.negative significand, rest)

/-- Pass over the exponent of a number. -/
def ignoreExponent (cs : List Char) : Except Fault (List Char) :=
  match cs with
  | 'e' :: rest | 'E' :: rest =>
    let rest := match rest with
      | '+' :: rest | '-' :: rest => rest
      | _ => rest
    let (digits, rest) := spanDigits rest
    if digits.isEmpty then .error .malformed else .ok rest
  | _ => .ok cs

/-- Pass over a number behind its sign. -/
def ignoreNumber (cs : List Char) : Except Fault (List Char) :=
  let (digits, rest) := spanDigits cs
  if digits.isEmpty ∨ digits.head? = some '0' ∧ 1 < digits.length then .error .malformed
  else
    match rest with
    | '.' :: rest =>
      let (digits, rest) := spanDigits rest
      if digits.isEmpty then .error .malformed else ignoreExponent rest
    | _ => ignoreExponent rest

/-- Pass over a string behind its opening quote. -/
def ignoreString (cs : List Char) : Except Fault (List Char) := do
  let (_, rest) ← readStringFrom false .plain [] cs
  return rest

/-- What is open around a value that is passed over. -/
inductive Opened where
  | array
  | object
deriving DecidableEq, Repr

/-- Pass over the name of a member and the colon behind it. -/
def ignoreName (cs : List Char) : Except Fault (List Char) := do
  match skipBlank cs with
  | '"' :: rest =>
    match skipBlank (← ignoreString rest) with
    | ':' :: rest => return rest
    | [] => throw .unfinished
    | _ => throw .malformed
  | [] => throw .unfinished
  | _ => throw .malformed

/-- Behind a value, or behind an opening bracket if no comma may come yet: close what is closed there,
and go on to the next value of what stays open. Gives nothing left open at the end of the value. The
fuel bounds the brackets. -/
def closeOpened : (fuel : Nat) → (comma : Bool) → List Opened → List Char →
    Except Fault (List Opened × List Char)
  | 0, _, _, _ => .error .unfinished
  | _ + 1, _, [], cs => .ok ([], cs)
  | fuel + 1, comma, inner :: outer, cs =>
    match skipBlank cs, inner with
    | ']' :: rest, .array => closeOpened fuel true outer rest
    | '\x7d' :: rest, .object => closeOpened fuel true outer rest
    | [], _ => .error .unfinished
    | c :: rest, inner => do
      if comma && c != ',' then throw .malformed
      let rest := if comma then rest else c :: rest
      match inner with
      | .array => return (inner :: outer, rest)
      | .object => return (inner :: outer, ← ignoreName rest)

/-- Pass over a value and all that is still open around it. The fuel bounds the values; each takes a
character. -/
def ignoreFrom : (fuel : Nat) → List Opened → List Char → Except Fault (List Char)
  | 0, _, _ => .error .unfinished
  | fuel + 1, opened, cs => do
    let (opened, comma, rest) ←
      match skipBlank cs with
      | [] => throw .unfinished
      | 'n' :: rest => pure (opened, true, ← readWord "ull".toList rest)
      | 't' :: rest => pure (opened, true, ← readWord "rue".toList rest)
      | 'f' :: rest => pure (opened, true, ← readWord "alse".toList rest)
      | '-' :: rest => pure (opened, true, ← ignoreNumber rest)
      | '"' :: rest => pure (opened, true, ← ignoreString rest)
      | '[' :: rest => pure (.array :: opened, false, rest)
      | '\x7b' :: rest => pure (.object :: opened, false, rest)
      | c :: rest =>
        if c.isDigit then pure (opened, true, ← ignoreNumber (c :: rest)) else throw .malformed
    let (opened, rest) ← closeOpened (rest.length + 1) comma opened rest
    if opened.isEmpty then return rest else ignoreFrom fuel opened rest

/-- Pass over a value of any kind. -/
def ignoreValue (cs : List Char) : Except Fault (List Char) := ignoreFrom (cs.length + 1) [] cs

end Occupancy.Json
