/-
Module: Occupancy.Json.Basic
Purpose: JSON values and their text over several lines.
Main exports: Json, Json.pretty, quoted, floatText
-/
import Occupancy.Decimal.Shortest

namespace Occupancy

/-- A JSON value whose numbers are either natural or doubles. The members of an object keep their
order. -/
inductive Json where
  | null
  | natural (n : Nat)
  | float (x : Float)
  | string (text : String)
  | array (items : List Json)
  | object (members : List (String × Json))
deriving Repr, Inhabited

namespace Json

open Decimal

/-- The digits of a small number in base sixteen, four of them. -/
def hex4 (n : Nat) : List Char :=
  [n / 4096 % 16, n / 256 % 16, n / 16 % 16, n % 16].map Nat.digitChar

/-- How a character is written in a string: control characters by a letter or by their number, quotes
and backslashes behind a backslash, and all others as they are. -/
def escaped (c : Char) : List Char :=
  match c with
  | '"' => ['\\', '"']
  | '\\' => ['\\', '\\']
  | '\x08' => ['\\', 'b']
  | '\x0C' => ['\\', 'f']
  | '\n' => ['\\', 'n']
  | '\r' => ['\\', 'r']
  | '\t' => ['\\', 't']
  | c => if c.toNat < 0x20 then '\\' :: 'u' :: hex4 c.toNat else [c]

/-- A string in quotes. -/
def quoted (text : String) : List Char := '"' :: text.toList.flatMap escaped ++ ['"']

/-!
A double is written with the fewest digits that tell it from all others. The point stays within the
digits, or next to them behind zeros, for values from a hundred-thousandth up to ten to the
sixteenth; a whole number still gets a point and a zero. Outside these bounds there is one digit
before the point, and an exponent whose sign is always written. There is no text for a value that is
not finite.
-/

/-- The smallest and greatest exponent of a first digit for which no exponent is written. -/
def positional : Int × Int := (-5, 15)

/-- Digits with the first of them at a power of ten. -/
def layout (digits : List Char) (order : Int) : List Char :=
  if order < positional.1 ∨ positional.2 < order then
    let mantissa := match digits with
      | first :: rest@(_ :: _) => first :: '.' :: rest
      | digits => digits
    let exponent := if order < 0 then '-' :: Nat.toDigits 10 order.natAbs
      else '+' :: Nat.toDigits 10 order.natAbs
    mantissa ++ 'e' :: exponent
  else
    match order with
    | .negSucc n => '0' :: '.' :: List.replicate n '0' ++ digits
    | .ofNat n =>
      let whole := digits.take (n + 1)
      let fraction := digits.drop (n + 1)
      whole ++ List.replicate (n + 1 - whole.length) '0' ++
        '.' :: if fraction.isEmpty then ['0'] else fraction

/-- The text of a double. -/
def floatText (x : Float) : List Char :=
  match Binary64.ofFloat x with
  | .nan | .infinite _ => "null".toList
  | .finite negative significand exponent atPower =>
    let text :=
      if significand = 0 then "0.0".toList
      else
        let d := shortest significand exponent atPower
        let digits := digits d.digits
        layout digits (d.exponent + digits.length - 1)
    if negative then '-' :: text else text

/-- A new line, indented by so many steps of two spaces. -/
def newline (depth : Nat) : List Char := '\n' :: List.replicate (2 * depth) ' '

mutual

/-- The text of a value, for a value that stands so deep. Items and members have a line each; an
array or an object without any is a pair of brackets. -/
def write (depth : Nat) : Json → List Char
  | null => "null".toList
  | natural n => digits n
  | float x => floatText x
  | string text => quoted text
  | array [] => ['[', ']']
  | array (item :: items) =>
    '[' :: newline (depth + 1) ++ write (depth + 1) item ++ writeItems (depth + 1) items ++
      newline depth ++ [']']
  | object [] => ['\x7b', '\x7d']
  | object ((name, value) :: members) =>
    '\x7b' :: newline (depth + 1) ++ quoted name ++ ':' :: ' ' :: write (depth + 1) value ++
      writeMembers (depth + 1) members ++ newline depth ++ ['\x7d']

/-- The items behind the first. -/
def writeItems (depth : Nat) : List Json → List Char
  | [] => []
  | item :: items => ',' :: newline depth ++ write depth item ++ writeItems depth items

/-- The members behind the first. -/
def writeMembers (depth : Nat) : List (String × Json) → List Char
  | [] => []
  | (name, value) :: members =>
    ',' :: newline depth ++ quoted name ++ ':' :: ' ' :: write depth value ++
      writeMembers depth members

end

/-- The text of a value over several lines. -/
def pretty (value : Json) : List Char := write 0 value

end Json
end Occupancy
