/-
Module: Occupancy.Unicode.Table
Purpose: The coding in which tables of code points are kept.
Main exports: Table, decodeRanges, Table.find?
-/
import Occupancy.Text.Blank

namespace Occupancy.Unicode

/-!
Sets of code points are long and their members lie close together, so a table keeps the distances
between the members. A word `g` is one code point and a word `g+n` is `n + 1` of them in a row; both
begin `g` after the end of what came before. Numbers are hexadecimal, and words may be spread over
several strings.
-/

/-- Named sets of code points: the names of each, then the words of its coding. -/
abbrev Table := List (List String × List String)

/-- The value of a hexadecimal digit; no other character is asked about. -/
def hexDigit (c : Char) : Nat :=
  if c.isDigit then c.toNat - 0x30 else c.toNat - 0x57

/-- The numbers of one word, which plus signs keep apart. The first argument is the number being
read. -/
def wordNumbers (n : Nat) : List Char → List Nat
  | [] => [n]
  | c :: rest => if c = '+' then n :: wordNumbers 0 rest else wordNumbers (n * 16 + hexDigit c) rest

/-- Cut a text at its blanks. The first argument is the word being read, backwards. -/
def wordsFrom (word : List Char) (done : List (List Char)) : List Char → List (List Char)
  | [] => (if word.isEmpty then done else word.reverse :: done).reverse
  | c :: rest =>
    if c = ' ' then wordsFrom [] (if word.isEmpty then done else word.reverse :: done) rest
    else wordsFrom (c :: word) done rest

/-- The words of a coding, each as its numbers. -/
def words (coding : List String) : List (List Nat) :=
  coding.flatMap fun line => (wordsFrom [] [] line.toList).map (wordNumbers 0)

/-- Read a coding as inclusive ranges, in ascending order. -/
def decodeRanges (coding : List String) : List (Nat × Nat) :=
  let (_, ranges) := (words coding).foldl (fun (next, ranges) word =>
    let low := next + word.headD 0
    let high := low + (word.drop 1).headD 0
    (high + 1, (low, high) :: ranges)) (0, [])
  ranges.reverse

/-!
Names are compared loosely: case, spaces, low lines and hyphens make no difference, and neither
does an `is` at the beginning.
-/

/-- A name with what makes no difference taken out. The name `isc` is kept whole, because what is
left of it would be the name of something else. -/
def looseName (name : List Char) : List Char :=
  let lower := name.map Char.toLower
  let skeleton (cs : List Char) := cs.filter fun c =>
    c.toNat < 0x80 && c != ' ' && c != '_' && c != '-'
  match lower with
  | 'i' :: 's' :: rest => if skeleton rest = ['c'] then ['i', 's', 'c'] else skeleton rest
  | _ => skeleton lower

/-- The set of a name that is already loose. -/
def Table.find? (table : Table) (name : List Char) : Option (List (Nat × Nat)) :=
  (List.find? (fun entry => entry.1.any (looseName ·.toList = name)) table).map
    (decodeRanges ·.2)

end Occupancy.Unicode
