import TableReport.Analysis.Run
import TableReport.Load.Observer
/-!
# Answering a request about a file
-/
namespace TableReport.Loading

/-- The answer to a request about what has been loaded. -/
def analyze (l : Loading) (request : Request) (limits : Limits) : Answer :=
  match l.result with
  | .ok t => t.analyze l.attempt.path request limits
  | .error e => .failure (AnalysisError.load e).message

/-- The events of answering a request about what has been loaded. -/
def analysisEvents (l : Loading) (request : Request) (limits : Limits) : List Event :=
  match l.result with
  | .ok t => t.analysisEvents l.attempt.path request limits
  | .error e =>
    [.message .analysis .debug "load failed"
      [("path", .text l.attempt.path), ("err", .text e.message)]]

end TableReport.Loading
