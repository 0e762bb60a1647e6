import TableReport.Load.CellRules
import TableReport.Load.Csv.Document
import TableReport.Load.TextCell
/-!
# Tables from CSV

Under a schema, every column of the schema has to be among the headers, and other headers are passed
over. Without one, every header is a column, and its type is inferred.
-/
namespace TableReport.Csv

/-- How the fields of a record become cells: a column of texts holds them trimmed. -/
def cellRules : CellRules String where
  kind? := TextCell.kind?
  cell type raw := TextCell.read (Text.trim raw) .dateText type raw
  shown := id

namespace Document

/-- The rows of a document with the fields at given positions. The header is line one. -/
def rows (d : Document) (positions : List Nat) : List (SourceRow String) :=
  (d.records.zipIdx 2).map fun (fields, number) =>
    ⟨⟨number, none⟩, positions.map (fields.getD · "")⟩

/-- The table of a document. -/
def table (d : Document) : Option Schema → Except LoadError Table
  | some schema => do
    let positions ← (findColumns d.headers schema.names).mapError .shape
    cellRules.table schema (d.rows positions)
  | none => cellRules.inferTable d.headers (d.rows (List.range d.headers.length))

end Document

/-- The table that the bytes of a CSV text hold, under a schema or with inferred types. -/
def loadTable (text : List UInt8) (schema : Option Schema) : Except LoadError Table := do
  let document ← (Document.ofBytes text).mapError .csv
  document.table schema

end TableReport.Csv
