import TableReport.Number.Integer
import TableReport.Text.Quoted
/-!
# Why a table cannot be loaded
-/
namespace TableReport

/-- Why the bytes of a file cannot be read as text. -/
inductive ReadFailure where
  | isDirectory
  | notUtf8
deriving DecidableEq, Repr

def ReadFailure.message : ReadFailure → String
  | .isDirectory => "Is a directory (os error 21)"
  | .notUtf8 => "stream did not contain valid UTF-8"

/-- Where a CSV record begins: its number, the line, and the byte. -/
structure RecordPlace where
  record : Nat
  line : Nat
  byte : Nat
deriving DecidableEq, Repr

/-- Why bytes are not the records of a CSV text. -/
inductive CsvFailure where
  | isDirectory
  | unequalLengths (place : RecordPlace) (found expected : Nat)
  | notUtf8 (place : RecordPlace) (field validBytes : Nat)
deriving DecidableEq, Repr

def CsvFailure.message : CsvFailure → String
  | .isDirectory => ReadFailure.isDirectory.message
  | .unequalLengths p found expected =>
    s!"CSV error: record {p.record} (line: {p.line}, byte: {p.byte}): found record with " ++
      s!"{found} fields, but the previous record has {expected} fields"
  | .notUtf8 p field validBytes =>
    s!"CSV parse error: record {p.record} (line {p.line}, field: {field}, byte: {p.byte}): " ++
      s!"invalid utf-8: invalid UTF-8 in field {field} near byte index {validBytes}"

/-- The kinds of workbook files. -/
inductive Container where
  | xls
  | xlsx
  | xlsb
  | ods
deriving DecidableEq, Repr

def Container.label : Container → String
  | .xls => "Xls"
  | .xlsx => "Xlsx"
  | .xlsb => "Xlsb"
  | .ods => "Ods"

/-- Why a sheet of a workbook cannot be read. -/
inductive WorkbookFailure where
  | isDirectory
  | undecodable
  | noSuchSheet (container : Container) (sheet : String)
deriving DecidableEq, Repr

/-- The message, if the failure has one that says more than that the workbook cannot be read. -/
def WorkbookFailure.message : WorkbookFailure → String
  | .noSuchSheet container sheet =>
    s!"excel error: {container.label} error: Worksheet '{sheet}' not found"
  | _ => "excel error"

/-- How the input differs from the shape that is needed. -/
inductive ShapeProblem where
  | missingColumn (name : String) (headers : List String)
  | duplicateColumn (name : String)
  | emptyJson
  | noRecords
  | invalidLine (line : Nat)
  | notAnObject (row : Nat)
  | missingField (row : Nat) (name : String)
  | noSheets
  | noHeaderRow
  | inSheet (sheet : String) (problem : ShapeProblem)
deriving DecidableEq

def ShapeProblem.message : ShapeProblem → String
  | .missingColumn name headers =>
    s!"missing required column '{name}'. headers={Text.quotedList headers}"
  | .duplicateColumn name => s!"duplicate column '{name}'"
  | .emptyJson => "json input is empty"
  | .noRecords => "json must be an object, an array of objects, or NDJSON"
  | .invalidLine line => s!"invalid ndjson at line {line}"
  | .notAnObject row => s!"row {row} is not a json object"
  | .missingField row name => s!"row {row} missing required field '{name}'"
  | .noSheets => "workbook has no sheets"
  | .noHeaderRow => "sheet has no non-empty rows (no header row found)"
  | .inSheet sheet problem => s!"sheet '{sheet}': {problem.message}"

/-- Why a source value is none of the wanted type. -/
inductive ValueProblem where
  | integer (problem : IntegerProblem)
  | float
  | boolWord
  | bool
  | date
  | dateText
  | jsonDate
  | jsonInteger
  | unsignedRange
  | jsonNumber
  | number
  | wholeNumber
  | fraction
  | serialRange
deriving DecidableEq, Repr

def ValueProblem.message : ValueProblem → String
  | .integer problem => problem.message
  | .float => "invalid float literal"
  | .boolWord => "expected bool (true/false/1/0/yes/no)"
  | .bool => "expected bool"
  | .date => "expected date or date-time"
  | .dateText => "expected date or date-time (YYYY-MM-DD[ HH:MM:SS])"
  | .jsonDate => "expected date or date-time string"
  | .jsonInteger => "expected integer number"
  | .unsignedRange => "u64 out of range for i64"
  | .jsonNumber => "expected number"
  | .number => "expected number"
  | .wholeNumber => "expected integer"
  | .fraction => "expected integer (got non-integer float)"
  | .serialRange => "date serial out of range"

/-- Why a table cannot be loaded. -/
inductive LoadError where
  | fileNotFound (path : String)
  | unsupportedFileType (extension : String)
  | read (failure : ReadFailure)
  | csv (failure : CsvFailure)
  | workbook (failure : WorkbookFailure)
  | shape (problem : ShapeProblem)
  /-- A source value that is none of its column's type, with the row and the label of the column. -/
  | value (row : Nat) (column raw : String) (problem : ValueProblem)
deriving DecidableEq

namespace LoadError

def message : LoadError → String
  | .fileNotFound path => s!"File not found: {path}"
  | .unsupportedFileType extension => s!"Unsupported file type: {extension}"
  | .read failure => s!"io error: {failure.message}"
  | .csv failure => s!"csv error: {failure.message}"
  | .workbook failure => failure.message
  | .shape problem => s!"schema mismatch: {problem.message}"
  | .value row column raw problem =>
    s!"failed to parse value at row {row} column '{column}': {problem.message} (raw='{raw}')"

end LoadError

end TableReport
