import TableReport.Table.Basic
import TableReport.Text.Quoted
/-!
# What can be wrong with a column
-/
namespace TableReport

inductive ColumnRole where
  | plain
  | group
  | aggregate
deriving DecidableEq, Repr

def ColumnRole.label : ColumnRole → String
  | .plain => "Column"
  | .group => "Group column"
  | .aggregate => "Aggregate column"

/-- Why an operation cannot use a column. -/
inductive ColumnError where
  | notFound (role : ColumnRole) (column : String) (available : List String)
  | notNumeric (column : String) (type : ColumnType) (operation : String)
  /-- The total of an integer column is out of the range of 64-bit integers. -/
  | overflow (column : String)
deriving DecidableEq

def ColumnError.message : ColumnError → String
  | .notFound role column available =>
    s!"{role.label} '{column}' not found. Available: {Text.bracketed available}"
  | .notNumeric column type operation =>
    s!"Column '{column}' has dtype '{type.label}'; operation '{operation}' requires a numeric column"
  | .overflow column => s!"Integer overflow while summing column '{column}'"

def Schema.lookUp (s : Schema) (role : ColumnRole) (name : String) : Except ColumnError Nat :=
  match s.indexOf? name with
  | some i => .ok i
  | none => .error (.notFound role name s.names)

end TableReport
