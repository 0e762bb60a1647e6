import TableReport.Load.Workbook.Sheet
/-!
# Tables from workbooks

The rows of the selected sheets one after the other, under the columns of a schema, or else under
those of the first selected sheet with inferred types.
-/
namespace TableReport

/-- Which sheets of a workbook are read. -/
inductive SheetSelection where
  /-- The first sheet; under a schema, every sheet. -/
  | first
  | sheet (name : String)
  | all
  | these (names : List String)
deriving DecidableEq

namespace SheetSelection

/-- The text of a selection in summaries. -/
def summary : SheetSelection → String
  | .first => "First"
  | .sheet name => s!"Sheet({Text.quoted name})"
  | .all => "AllSheets"
  | .these names => s!"Sheets({Text.quotedList names})"

/-- The selected names of a workbook with the given sheets. -/
def select (selection : SheetSelection) (sheets : List String) (schema : Option Schema) :
    List String :=
  match selection, schema with
  | .first, none => sheets.take 1
  | .first, some _ => sheets
  | .sheet name, _ => [name]
  | .all, _ => sheets
  | .these names, _ => names

end SheetSelection

namespace Workbook

/-- The rows of the named sheets, and the names of their columns. Unless columns are wanted already,
the first sheet determines them. -/
def selectRows (w : Workbook) :
    Option (List String) → List String → Except LoadError (List String × List (SourceRow SheetCell))
  | wanted, [] => .ok (wanted.getD [], [])
  | wanted, name :: names => do
    let sheet ← w.sheet name
    let (columns, rows) ← (sheet.select wanted).mapError fun p => .shape (.inSheet name p)
    let (columns, more) ← w.selectRows (some columns) names
    .ok (columns, rows ++ more)

/-- The table of the selected sheets, under a schema or with inferred types. -/
def table (w : Workbook) (selection : SheetSelection) (schema : Option Schema) :
    Except LoadError Table := do
  let names := selection.select w.sheetNames schema
  if names.isEmpty then .error (.shape .noSheets)
  else
    let (columns, rows) ← w.selectRows (schema.map Schema.names) names
    match schema with
    | some schema => SheetCell.cellRules.table schema rows
    | none => SheetCell.cellRules.inferTable columns rows

end Workbook

end TableReport
