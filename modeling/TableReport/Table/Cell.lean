import TableReport.Calendar.DateTime
import TableReport.Number.Layout
import TableReport.Number.Nearest
/-!
# Cells

The values a table holds, the types of its columns, and the order of cells of one kind.
-/
namespace TableReport

/-- The type of a column. A column of type `null` has no value at all. -/
inductive ColumnType where
  | int64
  | float64
  | bool
  | utf8
  | dateTime
  | null
deriving DecidableEq, Repr

namespace ColumnType

/-- Columns of integers or of binary64 numbers. -/
def isNumeric : ColumnType → Bool
  | .int64 | .float64 => true
  | _ => false

def label : ColumnType → String
  | .int64 => "int64"
  | .float64 => "float64"
  | .bool => "bool"
  | .utf8 => "object"
  | .dateTime => "datetime64[ns]"
  | .null => "null"

end ColumnType

inductive Cell where
  | null
  | int (v : Int64)
  | float (v : Binary64)
  | bool (v : Bool)
  | text (v : String)
  | dateTime (v : DateTime)
deriving DecidableEq

namespace Cell

def isNull : Cell → Bool
  | .null => true
  | _ => false

/-- No value: null, or a NaN. -/
def isMissing : Cell → Bool
  | .null => true
  | .float v => v.isNaN
  | _ => false

/-- The number a cell stands for, if it is numeric. -/
def number? : Cell → Option Binary64
  | .int v => some (Binary64.ofInt64 v)
  | .float v => some v
  | _ => none

def boolOrder : Bool → Bool → Ordering
  | false, true => .lt
  | true, false => .gt
  | _, _ => .eq

/-- The order of cells of one kind, integers and numbers being one kind. Numbers are in the total order
of patterns, texts in the order of their code points. -/
def order? : Cell → Cell → Option Ordering
  | .int a, .int b => some (compare a.toInt b.toInt)
  | .float a, .float b => some (a.totalOrder b)
  | .int a, .float b => some ((Binary64.ofInt64 a).totalOrder b)
  | .float a, .int b => some (a.totalOrder (Binary64.ofInt64 b))
  | .bool a, .bool b => some (boolOrder a b)
  | .text a, .text b => some (compare a b)
  | .dateTime a, .dateTime b => some (a.order b)
  | _, _ => none

/-- The order of cells, those without one counting as equal. -/
def order (a b : Cell) : Ordering := (a.order? b).getD .eq

/-- The text of a cell in messages and as the name of a group. -/
def shown : Cell → String
  | .null => "null"
  | .int v => toString v.toInt
  | .float v => v.text .shown
  | .bool v => if v then "true" else "false"
  | .text v => v
  | .dateTime v => v.text

/-- A cell by which equal values can be told: every NaN is one value, and so are the zeros. -/
def key : Cell → Cell
  | .float v => .float v.canonical
  | c => c

def fits (c : Cell) (type : ColumnType) : Bool :=
  match c, type with
  | .null, _ => true
  | .int _, .int64 => true
  | .float _, .float64 => true
  | .bool _, .bool => true
  | .text _, .utf8 => true
  | .dateTime _, .dateTime => true
  | _, _ => false

end Cell

end TableReport
