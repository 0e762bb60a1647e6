import TableReport.Load.Error
import TableReport.Text.Blank
/-!
# File names

The extension of a path, the format that it stands for, and the container that a workbook file of that
extension has to be.
-/
namespace TableReport

namespace Path

/-- The names on a path: what stands between its slashes, without empty parts and single dots. -/
def names (path : String) : List String :=
  (Text.pieces '/' path).filter fun name => name != "" && name != "."

/-- What follows the last dot of a name, if that dot is not its first character. -/
def nameExtension? (name : String) : Option String :=
  let (tail, front) := name.toList.reverse.span (· != '.')
  match front with
  | _ :: _ :: _ => some (String.ofList tail.reverse)
  | _ => none

/-- The extension of the last name on a path; empty when there is none. -/
def extension (path : String) : String :=
  match (names path).getLast? with
  | none => ""
  | some ".." => ""
  | some name => (nameExtension? name).getD ""

end Path

/-- The formats of files. -/
inductive Format where
  | csv
  | json
  | workbook
deriving DecidableEq, Repr

namespace Format

/-- The name of a format in logs. -/
def name : Format → String
  | .csv => "csv"
  | .json => "json"
  | .workbook => "excel"

/-- The name of a format in summaries. -/
def label : Format → String
  | .csv => "Csv"
  | .json => "Json"
  | .workbook => "Excel"

/-- The extensions of a format. -/
def extensions : Format → List String
  | .csv => ["csv"]
  | .json => ["json", "ndjson"]
  | .workbook => ["xlsx", "xls", "xlsm", "xlsb", "ods"]

/-- Every format. -/
def all : List Format := [.csv, .json, .workbook]

/-- The format that an extension stands for, whatever the case of its ASCII letters. -/
def ofExtension? (extension : String) : Option Format :=
  all.find? fun format => format.extensions.contains (Text.lowerAscii extension)

end Format

/-- The container that a workbook file of an extension has to be. With any other extension, the
containers are tried one after the other. -/
def Container.ofExtension? (extension : String) : Option Container :=
  match extension with
  | "xls" | "xla" => some .xls
  | "xlsx" | "xlsm" | "xlam" => some .xlsx
  | "xlsb" => some .xlsb
  | "ods" => some .ods
  | _ => none

end TableReport
