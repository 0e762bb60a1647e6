import TableReport.Analysis.Payload
import TableReport.Json.Printer
/-!
# Reports

The result of a request as a JSON document. Rows are objects in column order, dates are texts, and a
number that is not finite is null.
-/
namespace TableReport

namespace Cell

/-- The JSON value of a cell. -/
def toJson : Cell → Json
  | .null => .null
  | .int v => .int v.toInt
  | .float v => .ofBinary64 v
  | .bool v => .bool v
  | .text v => .text v
  | .dateTime v => .text v.text

end Cell

namespace Schema

/-- Column names with the labels of their types. -/
def toJson (s : Schema) : Json := .ofPairs (s.fields.map fun f => (f.name, .text f.type.label))

/-- A row as an object. -/
def record (s : Schema) (row : Row) : Json :=
  .ofPairs (s.fields.zipIdx.map fun (f, i) => (f.name, (row.cell i).toJson))

/-- Rows as a list of objects. -/
def records (s : Schema) (rows : List Row) : Json := .list (rows.map s.record)

end Schema

/-- The statistics of a column as an object. -/
def Statistics.toJson (s : Statistics) : Json :=
  .object [("count", .ofNat s.count), ("mean", .ofBinary64? s.mean),
    ("std", .ofBinary64? s.deviation), ("min", .ofBinary64? s.min),
    ("25%", .ofBinary64? s.lowerQuartile), ("50%", .ofBinary64? s.median),
    ("75%", .ofBinary64? s.upperQuartile), ("max", .ofBinary64? s.max)]

/-- Groups as an object from the texts of their keys to their totals. -/
def Group.toJson (groups : List Group) : Json :=
  .ofPairs (groups.map fun g => (g.key.shown, g.total.toJson))

/-- The `result` of a report. -/
def Payload.toJson (schema : Schema) : Payload → Json
  | .info facts => .object
      [("shape", .list [.ofNat facts.rows, .ofNat facts.columns.length]),
        ("memory_mb", .ofBinary64 facts.mebibytes.roundToCents),
        ("null_counts", .ofPairs (facts.columns.map fun c => (c.name, .ofNat c.missing))),
        ("sample", schema.records facts.sample)]
  | .rows found => schema.records found
  | .sum value => .ofBinary64 value
  | .mean value => .ofBinary64? value
  | .stats s => s.toJson
  | .statsOfAll columns => .ofPairs (columns.map fun (name, s) => (name, s.toJson))
  | .groups gs => Group.toJson gs
  | .filter s => .object
      [("matching_rows", .ofNat s.matching), ("total_rows", .ofNat s.total),
        ("percentage", .ofBinary64 s.percentage.roundToCents),
        ("sample", schema.records s.sample)]
  | .unique v => .object
      [("unique_count", .ofNat v.count), ("values", .list (v.values.map Cell.toJson))]
  | .duplicates d => .object
      [("duplicate_rows", .ofNat d.count), ("sample", schema.records d.sample)]
  | .correlation c => .object
      [("correlation", .ofBinary64? c.coefficient),
        ("interpretation", .text c.interpretation.label)]

/-- The result of a request, with what it is about. -/
structure Report where
  file : String
  rows : Nat
  columns : List String
  types : Json
  operation : Operation
  result : Json

/-- The members of a report's document. -/
def Report.members (r : Report) : Json.Members :=
  [("file", .text r.file), ("rows", .ofNat r.rows), ("columns", .ofTexts r.columns),
    ("dtypes", r.types), ("operation", .text r.operation.name), ("result", r.result)]

/-- The report on a payload. -/
def Report.ofPayload (t : Table) (source : String) (operation : Operation) (payload : Payload) :
    Report where
  file := source
  rows := t.size
  columns := t.schema.names
  types := t.schema.toJson
  operation := operation
  result := payload.toJson t.schema

/-- What a request is answered with. -/
inductive Answer where
  | success (report : Report)
  | failure (error : String)

namespace Answer

/-- The document of an answer. -/
def toJson : Answer → Json
  | .success report => .object report.members
  | .failure error => .object [("error", .text error)]

/-- The text of the document. -/
def text (pretty : Bool) (a : Answer) : String :=
  if pretty then a.toJson.indented else a.toJson.compact

/-- Zero for a report, one for an error. -/
def exitCode : Answer → Nat
  | .success _ => 0
  | .failure _ => 1

end Answer

end TableReport
