import TableReport.Calendar.Serial
import TableReport.Load.CellRules
import TableReport.Load.TextCell
/-!
# Workbook cells

What a cell of a workbook holds, its text, and the cell of a table it becomes. Workbooks keep every
number as a binary64 one, so a whole number in a sheet is taken for an integer.
-/
namespace TableReport

/-- An error value in a sheet. -/
inductive SheetFault where
  | divisionByZero
  | notAvailable
  | name
  | null
  | number
  | reference
  | value
  | gettingData
deriving DecidableEq, Repr

namespace SheetFault

def all : List SheetFault :=
  [.divisionByZero, .notAvailable, .name, .null, .number, .reference, .value, .gettingData]

/-- The text that a sheet shows. -/
def shown : SheetFault → String
  | .divisionByZero => "#DIV/0!"
  | .notAvailable => "#N/A"
  | .name => "#NAME?"
  | .null => "#NULL!"
  | .number => "#NUM!"
  | .reference => "#REF!"
  | .value => "#VALUE!"
  | .gettingData => "#DATA!"

/-- The name of a column that has the error as its header. -/
def headerName : SheetFault → String
  | .divisionByZero => "Div0"
  | .notAvailable => "NA"
  | .name => "Name"
  | .null => "Null"
  | .number => "Num"
  | .reference => "Ref"
  | .value => "Value"
  | .gettingData => "GettingData"

end SheetFault

/-- A cell of a sheet. -/
inductive SheetCell where
  | empty
  | text (s : String)
  | bool (v : Bool)
  | number (v : Binary64)
  | int (v : Int64)
  | date (serial : Binary64)
  | isoDate (s : String)
  | duration (s : String)
  | fault (f : SheetFault)
deriving DecidableEq

namespace SheetCell

def isEmpty : SheetCell → Bool
  | .empty => true
  | _ => false

/-- The text of a cell. -/
def shown : SheetCell → String
  | .empty => ""
  | .text s => s
  | .bool v => if v then "true" else "false"
  | .number v => v.text .plain
  | .int v => toString v.toInt
  | .date serial => serial.text .plain
  | .isoDate s => s
  | .duration s => s
  | .fault f => f.shown

/-- The name of the column that a cell is the header of. A whole number is written as an integer of 64
bits. -/
def headerText (c : SheetCell) : String :=
  Text.trim <| match c with
    | .number v => if v.isWhole then toString v.truncate.toInt else c.shown
    | .fault f => f.headerName
    | _ => c.shown

/-- No value: an empty cell, an error, NaN, or a marker for a missing value. -/
def isMissing : SheetCell → Bool
  | .empty => true
  | .fault _ => true
  | .number v => v.isNaN
  | .text s => isMissingMarker (Text.trim s)
  | _ => false

/-- Whether a number is taken for an integer. -/
def looksInt (v : Binary64) : Bool := v.isWhole && v.wholePart < 9 * Nat.pow 10 15

/-- What a text in a cell looks like: a date, or text. -/
def textKind (s : String) : CellKind := if (readDateTime? s).isSome then .dateTime else .text

/-- What a cell looks like; nothing when it is missing. -/
def kind? (c : SheetCell) : Option CellKind :=
  if c.isMissing then none
  else match c with
    | .empty | .fault _ => none
    | .int _ => some .int
    | .number v => some (if looksInt v then .int else .float)
    | .bool _ => some .bool
    | .date _ => some .dateTime
    | .isoDate s | .text s => some (textKind s)
    | .duration _ => some .text

/-- The words for a truth value in a sheet. -/
def boolWords : Bool → List String
  | true => ["true", "t", "1", "yes", "y"]
  | false => ["false", "f", "0", "no", "n"]

/-- The truth value cell of a cell; of numbers, zero is false. -/
def boolCell : SheetCell → Except ValueProblem Cell
  | .bool v => .ok (.bool v)
  | .int v => .ok (.bool (v != 0))
  | .number v => .ok (.bool (!v.isZero))
  | .text s => match TextCell.wordValue? boolWords (Text.trim s) with
    | some v => .ok (.bool v)
    | none => .error .boolWord
  | _ => .error .bool

/-- The integer cell of a cell. A whole number beyond the range becomes the end of the range. -/
def intCell : SheetCell → Except ValueProblem Cell
  | .int v => .ok (.int v)
  | .number v => if v.isWhole then .ok (.int v.truncate) else .error .fraction
  | .text s => ((readInt64 (Text.trim s)).map Cell.int).mapError .integer
  | _ => .error .wholeNumber

/-- The number cell of a cell. -/
def floatCell : SheetCell → Except ValueProblem Cell
  | .number v => .ok (.float v)
  | .int v => .ok (.float (Binary64.ofInt64 v))
  | .text s => match readBinary64? (Text.trim s) with
    | some v => .ok (.float v)
    | none => .error .float
  | _ => .error .number

/-- The date cell of a cell. -/
def dateCell : SheetCell → Except ValueProblem Cell
  | .date serial => match DateTime.ofSerial? serial with
    | some v => .ok (.dateTime v)
    | none => .error .serialRange
  | .isoDate s | .text s => match readDateTime? s with
    | some v => .ok (.dateTime v)
    | none => .error .date
  | _ => .error .date

/-- The cell of a column type that a cell of a sheet stands for. A column of texts keeps the blanks around
them. -/
def toCell (type : ColumnType) (c : SheetCell) : Except ValueProblem Cell :=
  if c.isMissing then .ok .null
  else match type with
    | .null => .ok .null
    | .utf8 => .ok (.text c.shown)
    | .bool => c.boolCell
    | .int64 => c.intCell
    | .float64 => c.floatCell
    | .dateTime => c.dateCell

/-- How cells of a sheet become cells of a table. -/
def cellRules : CellRules SheetCell where
  kind? := kind?
  cell := toCell
  shown := shown

end SheetCell

end TableReport
