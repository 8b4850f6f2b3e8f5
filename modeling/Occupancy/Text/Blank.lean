/-
Module: Occupancy.Text.Blank
Purpose: White space of every script, and trimming.
Main exports: isBlank, dropEndWhile, trim
-/

namespace Occupancy.Text

/-- White space: the code points with the property `White_Space`. A zero-width space is none of
them, and neither are the four information separators of ASCII. -/
def isBlank (c : Char) : Bool :=
  let n := c.toNat
  (0x09 ≤ n && n ≤ 0x0D) || n == 0x20 || n == 0x85 || n == 0xA0 || n == 0x1680 ||
  (0x2000 ≤ n && n ≤ 0x200A) || n == 0x2028 || n == 0x2029 || n == 0x202F || n == 0x205F ||
  n == 0x3000

/-- Drop the characters at the end that satisfy the predicate. -/
def dropEndWhile (p : Char → Bool) (cs : List Char) : List Char :=
  (cs.reverse.dropWhile p).reverse

/-- A text without the white space around it. -/
def trim (cs : List Char) : List Char :=
  dropEndWhile isBlank (cs.dropWhile isBlank)

end Occupancy.Text
