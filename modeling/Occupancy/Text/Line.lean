/-
Module: Occupancy.Text.Line
Purpose: Cutting bytes into lines.
Main exports: lines
-/
import Occupancy.Text.Utf8

namespace Occupancy.Text

/-- Cut after every line feed. The first argument holds the line being read, backwards; the second
the lines before it, the last one first. -/
def linesFrom (line : Bytes) (done : List Bytes) : Bytes → List Bytes
  | [] => (if line.isEmpty then done else line.reverse :: done).reverse
  | b :: rest =>
    if b = 0x0A then linesFrom [] ((b :: line).reverse :: done) rest
    else linesFrom (b :: line) done rest

/-- The lines of a file, each with the line feed that ends it. What follows the last line feed is a
line only if there is something. -/
def lines (bytes : Bytes) : List Bytes :=
  linesFrom [] [] bytes

end Occupancy.Text
