import TableReport.Calendar.Reading
import TableReport.Json.Printer
import TableReport.Load.CellRules
import TableReport.Load.Json.Record
/-!
# Tables from JSON

Under a schema, each column is a path into the records, and every record has to have a value there.
Without one, the columns are the names of all members in the order in which they first appear, and
their types are inferred.
-/
namespace TableReport.Json

/-- What a value looks like. A text is never taken for a number. -/
def kind? : Json → Option CellKind
  | .null => none
  | .bool _ => some .bool
  | .int v => some (if fitsInt64 v then .int else .float)
  | .float _ => some .float
  | .text s => some (if (readDateTime? s).isSome then .dateTime else .text)
  | .list _ => some .text
  | .object _ => some .text

/-- A text as it stands, or the JSON text of another value. -/
def plainText : Json → String
  | .text s => s
  | v => v.compact

/-- The integer cell of a value. -/
def intCell : Json → Except ValueProblem Cell
  | .int v => if fitsInt64 v then .ok (.int (Int64.ofInt v)) else .error .unsignedRange
  | _ => .error .jsonInteger

/-- The number cell of a value. -/
def floatCell : Json → Except ValueProblem Cell
  | .int v => .ok (.float (Binary64.ofInt v))
  | .float v => .ok (.float v)
  | _ => .error .jsonNumber

/-- The truth value cell of a value. -/
def boolCell : Json → Except ValueProblem Cell
  | .bool v => .ok (.bool v)
  | _ => .error .bool

/-- The date cell of a value. -/
def dateCell : Json → Except ValueProblem Cell
  | .text s => match readDateTime? s with
    | some v => .ok (.dateTime v)
    | none => .error .jsonDate
  | _ => .error .jsonDate

/-- The cell of a column type that a value stands for. -/
def toCell (type : ColumnType) (v : Json) : Except ValueProblem Cell :=
  if v.isNull then .ok .null
  else match type with
    | .null => .ok .null
    | .utf8 => .ok (.text v.plainText)
    | .bool => v.boolCell
    | .int64 => v.intCell
    | .float64 => v.floatCell
    | .dateTime => v.dateCell

/-- How JSON values become cells. -/
def cellRules : CellRules Json where
  kind? := kind?
  cell := toCell
  shown := compact

/-- The cells of a record under a schema. -/
def recordCells (schema : Schema) (v : Json) (row : Nat) : Except LoadError Row := do
  let members ← (v.asRecord row).mapError .shape
  schema.fields.mapM fun field =>
    match members.atPath? field.name with
    | some w => RowPlace.cell ⟨row, none⟩ cellRules field w
    | none => .error (.shape (.missingField row field.name))

/-- The table of records under a schema. -/
def strictTable (schema : Schema) (records : List Json) : Except LoadError Table := do
  let rows ← (records.zipIdx 1).mapM fun (v, row) => recordCells schema v row
  .ok ⟨schema, rows⟩

/-- The names of all members, in the order in which they first appear. -/
def memberNames (records : List Members) : List String :=
  (records.flatMap fun members => members.map Prod.fst).eraseDups

/-- The table of records with inferred types; a member that a record does not have is null. -/
def inferredTable (records : List Json) : Except LoadError Table := do
  let records ← (records.zipIdx 1).mapM fun (v, row) => (asRecord v row).mapError LoadError.shape
  let names := memberNames records
  let rows := (records.zipIdx 1).map fun (members, row) =>
    SourceRow.mk ⟨row, none⟩ (names.map fun name => (Members.get? members name).getD .null)
  cellRules.inferTable names rows

/-- The table that a JSON text holds, under a schema or with inferred types. -/
def loadTable (input : String) (schema : Option Schema) : Except LoadError Table := do
  let records ← (readRecords input).mapError .shape
  match schema with
  | some schema => strictTable schema records
  | none => inferredTable records

end TableReport.Json
