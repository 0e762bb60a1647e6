import TableReport.Load.Path
import TableReport.Load.Workbook.Table
/-!
# Options of a load
-/
namespace TableReport

/-- How grave an outcome is. -/
inductive Severity where
  | info
  | warning
  | error
  | critical
deriving DecidableEq, Repr

namespace Severity

/-- The name of a severity in logs. -/
def name : Severity → String
  | .info => "info"
  | .warning => "warning"
  | .error => "error"
  | .critical => "critical"

/-- The name of a severity in summaries. -/
def label : Severity → String
  | .info => "Info"
  | .warning => "Warning"
  | .error => "Error"
  | .critical => "Critical"

/-- Every severity, the least grave first. -/
def all : List Severity := [.info, .warning, .error, .critical]

/-- Gravity as a number. -/
def weight : Severity → Nat
  | .info => 0
  | .warning => 1
  | .error => 2
  | .critical => 3

end Severity

/-- How grave it is that a table cannot be loaded: critical when its file is not there or cannot be
read at all. -/
def LoadError.severity : LoadError → Severity
  | .fileNotFound _ => .critical
  | .read _ => .critical
  | .csv .isDirectory => .critical
  | .workbook .isDirectory => .critical
  | _ => .error

/-- How a file is loaded. -/
structure LoadOptions where
  /-- The format of the file; by default its extension determines it. -/
  format : Option Format := none
  /-- The columns to load; by default all, with inferred types. -/
  schema : Option Schema := none
  sheets : SheetSelection := .first
  /-- The least severity of a failure that raises an alert. -/
  alertFrom : Severity := .critical

namespace LoadOptions

/-- Something optional in summaries. -/
private def optionText (v : Option String) : String :=
  match v with
  | none => "None"
  | some s => s!"Some({s})"

/-- The options in one line, and whether there is an observer. -/
def summary (o : LoadOptions) (observed : Bool) : String :=
  let format := optionText (o.format.map Format.label)
  let columns := optionText (o.schema.map fun s => toString s.width)
  s!"IngestionOptions \x7b format: {format}, schema_fields: {columns}, " ++
    s!"excel_sheet_selection: {o.sheets.summary}, observer_set: {observed}, " ++
    s!"alert_at_or_above: {o.alertFrom.label} \x7d"

end LoadOptions

end TableReport
