import TableReport.Analysis.Report
import TableReport.Trace
/-!
# Answering a request about a table

A request is validated, then its plan is executed, then the report is built; how far it came
determines the answer and the trace.
-/
namespace TableReport

/-- How a request ended. -/
inductive Ending where
  | rejected (e : AnalysisError)
  | failed (operation : Operation) (e : ColumnError)
  | completed (report : Report)

namespace Table

/-- How a request on a table ends. -/
def conclude (t : Table) (source : String) (request : Request) (limits : Limits) : Ending :=
  match Plan.ofRequest t.schema request limits with
  | .error e => .rejected e
  | .ok (operation, plan) =>
    match t.execute limits plan with
    | .error e => .failed operation e
    | .ok payload => .completed (.ofPayload t source operation payload)

end Table

namespace Ending

/-- The answer of a request that ended so. -/
def answer : Ending → Answer
  | .rejected e => .failure e.message
  | .failed _ e => .failure e.message
  | .completed report => .success report

/-- A message from a stage of the analysis. -/
private def note (level : Level) (text stage : String) (details : List (String × String)) : Event :=
  .message .analysis level text
    ((("stage", stage) :: details).map fun (name, value) => (name, .text value))

private def validating : Event := note .debug "validating request" "validating" []

private def executing (operation : Operation) : Event :=
  note .debug "running reducer" "executing" [("plan", operation.name)]

/-- The events after the span of a request that ended so. -/
def events : Ending → List Event
  | .rejected e =>
    [validating, note .debug "request rejected" "validating" [("err", e.message)]]
  | .failed operation e =>
    [validating, executing operation,
      note .warn "reducer failed" "executing" [("err", e.message)]]
  | .completed report =>
    [validating, executing report.operation, note .debug "building result" "serializing" []]

end Ending

/-- The answer to a request about a table. -/
def Table.analyze (t : Table) (source : String) (request : Request) (limits : Limits) : Answer :=
  (t.conclude source request limits).answer

/-- The events of answering a request about a table. -/
def Table.analysisEvents (t : Table) (source : String) (request : Request) (limits : Limits) :
    List Event :=
  .span .analysis "analyze" [("operation", .text request.operation), ("rows", .number t.size)] ::
    (t.conclude source request limits).events

end TableReport
