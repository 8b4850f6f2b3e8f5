/-
Module: Occupancy.Sheet.Cell
Purpose: Cells of a worksheet and their addresses.
Main exports: CellValue, Cell, columnLabel, Cell.address
-/

namespace Occupancy.Sheet

/-- What a cell shows. -/
inductive CellValue where
  | text (text : String)
  | number (value : Float)
deriving Repr, Inhabited

/-- A cell that is filled in. Rows and columns are counted from zero. -/
structure Cell where
  row : Nat
  column : Nat
  value : CellValue
  bold : Bool
deriving Repr, Inhabited

/-- The capital letter with a number below 26. -/
def letter (n : Nat) : Char := Char.ofNat (0x41 + n)

/-- The letters of a column number, counted from one, in front of others. There is no digit for
zero: `A` counts one and `Z` twenty-six. -/
def columnLetters (n : Nat) (after : List Char) : List Char :=
  if h : n = 0 then after
  else columnLetters ((n - 1) / 26) (letter ((n - 1) % 26) :: after)
termination_by n
decreasing_by omega

/-- The letters over a column: `A` to `Z`, then `AA`. -/
def columnLabel (column : Nat) : String :=
  String.ofList (columnLetters (column + 1) [])

/-- The name of a cell by its column and row, such as `B3`. -/
def Cell.address (cell : Cell) : String :=
  columnLabel cell.column ++ (cell.row + 1).repr

end Occupancy.Sheet
