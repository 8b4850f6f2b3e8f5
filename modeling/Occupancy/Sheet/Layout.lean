/-
Module: Occupancy.Sheet.Layout
Purpose: The worksheet of a list of runs.
Main exports: LayoutError, layout, SheetError, workbook, outputPath
-/
import Occupancy.Path
import Occupancy.Sheet.Cell
import Occupancy.Summary

namespace Occupancy.Sheet

/-!
Every run has a column, behind one with the names of the rows:

      A             B           C
  1   Benchmarks    name        name
  2                 Occupancy   Occupancy
  3   benchmark     average     average
  4   Average       average     average
-/

/-- Over the names of the benchmarks. -/
def benchmarksLabel : String := "Benchmarks"

/-- Under the name of every run. -/
def occupancyLabel : String := "Occupancy"

/-- The name of the last row. -/
def averageLabel : String := "Average"

/-- The row of the first benchmark. -/
def firstBenchmarkRow : Nat := 2

/-- Columns of a worksheet. -/
def columnLimit : Nat := 16384

/-- Rows of a worksheet. -/
def rowLimit : Nat := 1048576

/-- Characters of a text in a cell. -/
def textLimit : Nat := 32767

/-- Why runs cannot be laid out. -/
inductive LayoutError where
  | noKernels (run : String)
  | tooManyRuns (runs : Nat)
deriving DecidableEq, Repr

/-- The text of a layout error. -/
def LayoutError.message : LayoutError → String
  | noKernels run => "run `" ++ run ++ "` has no kernels; its average occupancy is undefined"
  | tooManyRuns runs => "too many runs for one worksheet: " ++ runs.repr

/-- A cell with a text. -/
def textCell (row column : Nat) (text : String) (bold : Bool) : Cell :=
  ⟨row, column, .text text, bold⟩

/-- A cell with a number. -/
def numberCell (row column : Nat) (x : Float) : Cell := ⟨row, column, .number x, false⟩

/-- The average of a run's first entry for a benchmark. -/
def cellAverage (run : RunSummary) (benchmark : String) : Float :=
  ((run.benchmarks.find? (·.benchmark == benchmark)).map (·.average)).getD 0.0

/-- The row of the grand averages. -/
def averageRow (benchmarks : List String) : Nat := firstBenchmarkRow + benchmarks.length

/-- The first column. -/
def labelColumn (benchmarks : List String) : List Cell :=
  textCell 0 0 benchmarksLabel true ::
    benchmarks.mapIdx (fun i b => textCell (firstBenchmarkRow + i) 0 b false) ++
    [textCell (averageRow benchmarks) 0 averageLabel true]

/-- The column of a run. -/
def runColumn (benchmarks : List String) (column : Nat) (run : RunSummary) : List Cell :=
  textCell 0 column run.name false :: textCell 1 column occupancyLabel false ::
    benchmarks.mapIdx (fun j b => numberCell (firstBenchmarkRow + j) column (cellAverage run b)) ++
    run.average.toList.map (numberCell (averageRow benchmarks) column)

/-- All cells of the sheet, column by column. A run without kernels has no average to show, so it
cannot be laid out. -/
def layout (runs : List RunSummary) (benchmarks : List String) : Except LayoutError (List Cell) :=
  if columnLimit ≤ runs.length then .error (.tooManyRuns runs.length)
  else
    match runs.find? (·.average.isNone) with
    | some run => .error (.noKernels run.name)
    | none =>
      .ok (labelColumn benchmarks ++
        (runs.mapIdx fun i run => runColumn benchmarks (i + 1) run).flatten)

/-- Why there is no workbook. -/
inductive SheetError where
  | layout (error : LayoutError)
  | textTooLong
  | outOfSheet
deriving DecidableEq, Repr

/-- The limit behind an error of a sheet, if it is one. -/
def SheetError.cause : SheetError → Option String
  | layout _ => none
  | textTooLong => some "String exceeds Excel's limit of 32,767 characters."
  | outOfSheet => some "Row or column exceeds Excel's allowed limits (1,048,576 x 16,384)."

/-- The text of an error of a sheet. -/
def SheetError.message (e : SheetError) : String :=
  match e with
  | layout error => error.message
  | _ => "spreadsheet error: " ++ e.cause.getD ""

/-- What a cell stores. A number that is not finite becomes a text. -/
def storedValue (value : CellValue) : CellValue :=
  match value with
  | .number x =>
    if x.isNaN then .text "NAN"
    else if x.isInf then .text (if x < 0.0 then "-INF" else "INF")
    else value
  | .text _ => value

/-- Put a cell into a workbook, or leave it out: an empty text is not stored unless it is bold. -/
def store (cell : Cell) : Except SheetError (Option Cell) :=
  match cell.value with
  | .text text =>
    if text.isEmpty && !cell.bold then .ok none
    else if rowLimit ≤ cell.row ∨ columnLimit ≤ cell.column then .error .outOfSheet
    else if textLimit < text.length then .error .textTooLong
    else .ok (some cell)
  | .number _ =>
    if rowLimit ≤ cell.row ∨ columnLimit ≤ cell.column then .error .outOfSheet
    else .ok (some { cell with value := storedValue cell.value })

/-- Whether a cell stands before another or with it, row by row. -/
def cellLe (a b : Cell) : Bool := a.row < b.row || (a.row == b.row && a.column ≤ b.column)

/-- The workbook of a list of runs: the cells stored in it, row by row. -/
def workbook (runs : List RunSummary) (benchmarks : List String) :
    Except SheetError (List Cell) := do
  let cells ← (layout runs benchmarks).mapError .layout
  let stored ← cells.mapM store
  return (stored.filterMap id).mergeSort cellLe

/-- The end of the name of a workbook. -/
def extension : String := ".xlsx"

/-- Whether three letters stand anywhere in a text. -/
def mentionsSheet : List Char → Bool
  | 'x' :: 'l' :: 's' :: _ => true
  | _ :: rest => mentionsSheet rest
  | [] => false

/-- The last characters of a path, as it is shown. -/
def tail (path : Bytes) : List Char := ((Text.decodeLossy path).reverse.take 4).reverse

/-- Where a workbook is written: at the path itself if its last four characters name the kind of
file, and otherwise at the path with that name put behind it. -/
def outputPath (path : Bytes) : Bytes :=
  if mentionsSheet (tail path) then path else path ++ Path.ofString extension

end Occupancy.Sheet
