import TableReport.Analysis.Request
import TableReport.Condition.Error
import TableReport.Load.Error
import TableReport.Table.Error
/-!
# Why a request has no result
-/
namespace TableReport

/-- Why a request has no result. -/
inductive AnalysisError where
  | load (e : LoadError)
  | unknownOperation (name : String)
  | missingParameter (parameter : Parameter) (operation : Operation) (available : List String)
  | column (e : ColumnError)
  | invalidCondition (condition : String) (e : ConditionError)
  | noNumericColumns (available : List String)
deriving DecidableEq

namespace AnalysisError

def message : AnalysisError → String
  | .load e => e.message
  | .unknownOperation name =>
    s!"Unknown operation: {name}. Available: {Text.commaList (Operation.all.map Operation.name)}"
  | .missingParameter parameter operation available =>
    let suffix :=
      if available.isEmpty then "" else s!". Available: {Text.bracketed available}"
    s!"Missing required parameter '{parameter.name}' for operation '{operation.name}'{suffix}"
  | .column e => e.message
  | .invalidCondition condition e =>
    s!"Invalid filter condition: {condition}. Error: {e.message}"
  | .noNumericColumns available =>
    s!"No numeric columns to describe. Available: {Text.bracketed available}"

end AnalysisError

end TableReport
