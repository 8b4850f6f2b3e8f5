/-
Module: Occupancy.Unicode.Property
Purpose: Code points by the names of their properties, categories and scripts.
Main exports: Query, Query.ranges?, wordRanges, alphabeticRanges, alphanumericRanges
-/
import Occupancy.Unicode.Category
import Occupancy.Unicode.DecimalDigit
import Occupancy.Unicode.PropertyA
import Occupancy.Unicode.PropertyB
import Occupancy.Unicode.PropertyCase
import Occupancy.Unicode.Script
import Occupancy.Unicode.ScriptExtension

namespace Occupancy.Unicode

/-- A question for a set of code points: a name on its own, or a property with a value. -/
inductive Query where
  | named (name : List Char)
  | valued (property value : List Char)
deriving DecidableEq, Repr

/-- Every code point. -/
def allRanges : List (Nat × Nat) := [(0, 0x10FFFF)]

/-- What lies between ranges in ascending order, from a starting point on. -/
def gaps (start : Nat) : List (Nat × Nat) → List (Nat × Nat)
  | [] => if start ≤ 0x10FFFF then [(start, 0x10FFFF)] else []
  | (low, high) :: rest =>
    if start < low then (start, low - 1) :: gaps (high + 1) rest else gaps (high + 1) rest

/-- The code points of one general category, the groups left aside. -/
def category? (name : List Char) : Option (List (Nat × Nat)) :=
  if name ∈ ["nd", "decimalnumber", "digit"].map String.toList then some decimalDigitRanges
  else categoryTable.find? name

/-- The code points of a general category or of a group of them. A group is listed by the names of
its members, one category after the other, so its ranges are not in ascending order. -/
def generalCategory? (name : List Char) : Option (List (Nat × Nat)) :=
  if name = "any".toList then some allRanges
  else if name = "ascii".toList then some [(0, 0x7F)]
  else if name = "assigned".toList then
    (category? ['c', 'n']).map (gaps 0)
  else
    match categoryGroups.find? fun group => group.1.any (looseName ·.toList = name) with
    | some group => some (group.2.flatMap fun member =>
        (category? (looseName member.toList)).getD [])
    | none => category? name

/-- The code points with a binary property. -/
def binaryProperty? (name : List Char) : Option (List (Nat × Nat)) :=
  propertyTableA.find? name <|> propertyTableB.find? name <|> propertyTableCase.find? name

/-- The code points of a script. -/
def script? (name : List Char) : Option (List (Nat × Nat)) :=
  scriptTable.find? name

/-- The code points used with a script. -/
def scriptExtension? (name : List Char) : Option (List (Nat × Nat)) :=
  scriptExtensionTable.find? name <|> scriptTable.find? name

/-- The code points that a query asks for, in no particular order. A name alone is that of a binary
property, of a category or of a script; three short names could be either of the first two and are
taken for categories. -/
def Query.ranges? : Query → Option (List (Nat × Nat))
  | .named name =>
    let name := looseName name
    let property :=
      if name ∈ ["cf", "sc", "lc"].map String.toList then none else binaryProperty? name
    property <|> generalCategory? name <|> script? name
  | .valued property value =>
    let property := String.ofList (looseName property)
    let value := looseName value
    if property = "gc" ∨ property = "generalcategory" then generalCategory? value
    else if property = "sc" ∨ property = "script" then script? value
    else if property = "scx" ∨ property = "scriptextensions" then scriptExtension? value
    else none

/-- The union of what several names stand for. -/
def namedRanges (names : List String) : List (Nat × Nat) :=
  names.flatMap fun name => (Query.ranges? (.named name.toList)).getD []

/-- Characters that words are made of: letters and what counts as such, marks, digits, connecting
punctuation and the two joiners. -/
def wordRanges : List (Nat × Nat) :=
  namedRanges ["Alphabetic", "M", "Nd", "Pc", "Join_Control"]

/-- Letters and what counts as such. -/
def alphabeticRanges : List (Nat × Nat) := namedRanges ["Alphabetic"]

/-- Letters and numbers. -/
def alphanumericRanges : List (Nat × Nat) := namedRanges ["Alphabetic", "N"]

/-- White space. -/
def whiteSpaceRanges : List (Nat × Nat) := namedRanges ["White_Space"]

end Occupancy.Unicode
