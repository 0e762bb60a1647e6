import TableReport.Load.Error
import TableReport.Load.Kind
import TableReport.Table.Basic
/-!
# From source values to cells

Texts, JSON values and workbook cells become cells by rules of their own. What the rules have in
common is here: the types of columns are inferred from the kinds of their values, and a value that is
none of its column's type is reported with its place.
-/
namespace TableReport

/-- How the values of a kind of source become cells. -/
structure CellRules (α : Type) where
  /-- What a value looks like; nothing when it is missing. -/
  kind? : α → Option CellKind
  /-- The cell of a column type that a value stands for. -/
  cell : ColumnType → α → Except ValueProblem Cell
  /-- A value in messages. -/
  shown : α → String

/-- Where a source row stands. -/
structure RowPlace where
  /-- The number of the row in messages. -/
  number : Nat
  /-- The sheet the row is from, where there are sheets. -/
  sheet : Option String := none

namespace RowPlace

/-- The name of a column in messages about a row. -/
def label (place : RowPlace) (column : String) : String :=
  match place.sheet with
  | none => column
  | some sheet => s!"{sheet}:{column}"

/-- The cell that a value of a row becomes in a column. -/
def cell {α : Type} (place : RowPlace) (rules : CellRules α) (field : Field) (value : α) :
    Except LoadError Cell :=
  (rules.cell field.type value).mapError
    (.value place.number (place.label field.name) (rules.shown value))

end RowPlace

/-- The values of one source row. -/
structure SourceRow (α : Type) where
  place : RowPlace
  values : List α

/-- The cells of a row whose values are in the order of the columns. -/
def SourceRow.cells {α : Type} (row : SourceRow α) (rules : CellRules α) (schema : Schema) :
    Except LoadError Row :=
  (schema.fields.zip row.values).mapM fun (field, value) => row.place.cell rules field value

namespace CellRules

variable {α : Type}

/-- The kinds of the values at a position of the rows. -/
def kindsAt (rules : CellRules α) (rows : List (List α)) (i : Nat) : List CellKind :=
  rows.filterMap fun values => values[i]?.bind rules.kind?

/-- The schema of columns with given names, their types inferred from the rows. -/
def inferSchema (rules : CellRules α) (names : List String) (rows : List (List α)) : Schema :=
  ⟨names.zipIdx.map fun (name, i) => ⟨name, .ofKinds (rules.kindsAt rows i)⟩⟩

/-- The table of rows whose values are in the order of the columns. -/
def table (rules : CellRules α) (schema : Schema) (rows : List (SourceRow α)) :
    Except LoadError Table := do
  let cells ← rows.mapM fun row => row.cells rules schema
  .ok ⟨schema, cells⟩

/-- The table of rows under inferred column types. Two columns may not have the same name. -/
def inferTable (rules : CellRules α) (names : List String) (rows : List (SourceRow α)) :
    Except LoadError Table :=
  let schema := rules.inferSchema names (rows.map SourceRow.values)
  match schema.firstDuplicate? with
  | some name => .error (.shape (.duplicateColumn name))
  | none => rules.table schema rows

end CellRules

/-- The positions of wanted columns among the headers. -/
def findColumns (headers wanted : List String) : Except ShapeProblem (List Nat) :=
  wanted.mapM fun name =>
    match headers.findIdx? (· == name) with
    | some i => .ok i
    | none => .error (.missingColumn name headers)

end TableReport
