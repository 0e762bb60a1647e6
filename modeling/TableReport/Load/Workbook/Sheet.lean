import TableReport.Load.Workbook.SheetCell
/-!
# Sheets

Of a sheet, the smallest rectangle is read that holds all cells that are not empty. Its first row
names the columns, and its rows are counted from one.
-/
namespace TableReport

/-- A named grid of cells; rows may be of different lengths. -/
structure Sheet where
  name : String
  rows : List (List SheetCell)
deriving DecidableEq

/-- The sheets of a workbook file, in order. -/
structure Workbook where
  container : Container
  sheets : List Sheet
deriving DecidableEq

namespace Sheet

/-- A row without any cell that is not empty. -/
def isBlankRow (row : List SheetCell) : Bool := row.all SheetCell.isEmpty

/-- The rows from the first to the last one that is not blank. -/
def usedRows (s : Sheet) : List (List SheetCell) :=
  ((s.rows.dropWhile isBlankRow).reverse.dropWhile isBlankRow).reverse

/-- The first column with a cell that is not empty. -/
def leftEdge (s : Sheet) : Nat :=
  (s.rows.filterMap fun row => row.findIdx? (!SheetCell.isEmpty ·)).min?.getD 0

/-- The number of cells up to the last one of a row that is not empty. -/
def rowEnd (row : List SheetCell) : Nat := (row.reverse.dropWhile SheetCell.isEmpty).length

/-- The column after the last one with a cell that is not empty. -/
def rightEdge (s : Sheet) : Nat := (s.rows.map rowEnd).max?.getD 0

/-- The smallest rectangle that holds all cells that are not empty. -/
def grid (s : Sheet) : List (List SheetCell) :=
  let left := s.leftEdge
  let width := s.rightEdge - left
  s.usedRows.map fun row => (List.range width).map fun i => row.getD (left + i) .empty

/-- The column names, and the rows below them with their numbers. -/
def split (s : Sheet) : Except ShapeProblem (List String × List (List SheetCell × Nat)) :=
  match s.grid with
  | [] => .error .noHeaderRow
  | header :: rows => .ok (header.map SheetCell.headerText, rows.zipIdx 2)

/-- The rows of the sheet with the cells of wanted columns, and the names of these columns; when none
are asked for, all are wanted. -/
def select (s : Sheet) (wanted : Option (List String)) :
    Except ShapeProblem (List String × List (SourceRow SheetCell)) := do
  let (headers, rows) ← s.split
  let columns := wanted.getD headers
  let positions ← findColumns headers columns
  .ok (columns, rows.map fun (cells, number) =>
    ⟨⟨number, some s.name⟩, positions.map (cells.getD · .empty)⟩)

end Sheet

namespace Workbook

/-- The names of the sheets, in order. -/
def sheetNames (w : Workbook) : List String := w.sheets.map Sheet.name

/-- The sheet with a given name. -/
def sheet (w : Workbook) (name : String) : Except LoadError Sheet :=
  match w.sheets.find? (·.name == name) with
  | some s => .ok s
  | none => .error (.workbook (.noSuchSheet w.container name))

end Workbook

end TableReport
