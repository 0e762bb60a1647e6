import TableReport.Text.Blank
import TableReport.Text.Quoted
/-!
# Operations and requests
-/
namespace TableReport

/-- What can be asked about a table. -/
inductive Operation where
  | info
  | topN
  | bottomN
  | sum
  | mean
  | stats
  | groupBy
  | filter
  | unique
  | duplicates
  | correlate
deriving DecidableEq, Repr

namespace Operation

/-- The name by which an operation is asked for. -/
def name : Operation → String
  | .info => "info"
  | .topN => "top_n"
  | .bottomN => "bottom_n"
  | .sum => "sum"
  | .mean => "mean"
  | .stats => "stats"
  | .groupBy => "group_by"
  | .filter => "filter"
  | .unique => "unique"
  | .duplicates => "duplicates"
  | .correlate => "correlate"

/-- Every operation, in the order in which they are listed. -/
def all : List Operation :=
  [.info, .topN, .bottomN, .sum, .mean, .stats, .groupBy, .filter, .unique, .duplicates, .correlate]

/-- The operation with a name. -/
def ofName? (s : String) : Option Operation := all.find? (·.name == s)

end Operation

/-- The parameters of a request. -/
inductive Parameter where
  | column
  | column1
  | column2
  | columns
  | n
  | groupBy
  | aggregate
  | condition
deriving DecidableEq, Repr

def Parameter.name : Parameter → String
  | .column => "column"
  | .column1 => "column1"
  | .column2 => "column2"
  | .columns => "columns"
  | .n => "n"
  | .groupBy => "group_by"
  | .aggregate => "aggregate"
  | .condition => "condition"

/-- An operation by name, with its parameters. Parameters that the operation does not use are
ignored. -/
structure Request where
  operation : String
  column : Option String := none
  column1 : Option String := none
  column2 : Option String := none
  /-- Column names with commas between them. -/
  columns : Option String := none
  n : Option Nat := none
  groupBy : Option String := none
  aggregate : Option String := none
  condition : Option String := none
deriving DecidableEq

/-- A text that is more than blanks. -/
def present? (v : Option String) : Option String :=
  v.filter fun s => !s.toList.all Text.isBlank

namespace Request

/-- The text of a parameter, when it is given and more than blanks. -/
def text? (r : Request) : Parameter → Option String
  | .column => present? r.column
  | .column1 => present? r.column1
  | .column2 => present? r.column2
  | .columns => present? r.columns
  | .n => none
  | .groupBy => present? r.groupBy
  | .aggregate => present? r.aggregate
  | .condition => present? r.condition

/-- The names in `columns`, trimmed, without empty ones. -/
def columnSubset (r : Request) : List String :=
  match r.columns with
  | none => []
  | some s => ((Text.pieces ',' s).map Text.trim).filter (· != "")

end Request

/-- Bounds on what results list. -/
structure Limits where
  /-- The number of ranked rows when a request leaves it out. -/
  ranked : Nat := 10
  /-- Rows in the sample of an inspection. -/
  inspected : Nat := 3
  /-- Rows in the sample of a selection. -/
  selected : Nat := 5
  /-- Rows in the sample of repeated rows. -/
  repeated : Nat := 10
  /-- Listed distinct values. -/
  distinct : Nat := 100
deriving DecidableEq

end TableReport
