import TableReport.Table.Cell
/-!
# Tables

A schema names the columns and their types; a table adds rows in the same order. Rows may be shorter
than the schema, and then the cells that are not there read as null.
-/
namespace TableReport

structure Field where
  name : String
  type : ColumnType
deriving DecidableEq

structure Schema where
  fields : List Field
deriving DecidableEq

namespace Schema

def names (s : Schema) : List String := s.fields.map Field.name

def width (s : Schema) : Nat := s.fields.length

/-- The position of the first column with a name. -/
def indexOf? (s : Schema) (name : String) : Option Nat :=
  s.fields.findIdx? (·.name == name)

/-- The first name in the list that stands further left already. -/
def firstRepeated? : List String → List String → Option String
  | _, [] => none
  | before, name :: rest =>
    if before.contains name then some name else firstRepeated? (name :: before) rest

/-- The first column name that an earlier column has too. -/
def firstDuplicate? (s : Schema) : Option String := firstRepeated? [] s.names

def typeAt? (s : Schema) (i : Nat) : Option ColumnType := s.fields[i]?.map Field.type

end Schema

abbrev Row := List Cell

/-- The cell at a position of a row; there is null beyond its end. -/
def Row.cell (row : Row) (i : Nat) : Cell := row.getD i .null

structure Table where
  schema : Schema
  rows : List Row
deriving DecidableEq

namespace Table

def size (t : Table) : Nat := t.rows.length

def column (t : Table) (i : Nat) : List Cell := t.rows.map (Row.cell · i)

/-- The cells of a column that are not missing, in row order. -/
def present (t : Table) (i : Nat) : List Cell := (t.column i).filter (!·.isMissing)

/-- The type of the column at a position; beyond the last column it is null. -/
def typeAt (t : Table) (i : Nat) : ColumnType := (t.schema.typeAt? i).getD .null

/-- The name of the column at a position; beyond the last column it is empty. -/
def nameAt (t : Table) (i : Nat) : String := (t.schema.names[i]?).getD ""

def filter (t : Table) (keep : Row → Bool) : Table := { t with rows := t.rows.filter keep }

end Table

end TableReport
